import ObjectStore.Object.Info
import ObjectStore.Proofs.Encoding.Hex
import ObjectStore.Proofs.Text.Trimming
import ObjectStore.Proofs.Text.Utf8

/-!
# Which entity tags are digests

An entity tag is the MD5 digest of its object if there are thirty-two hexadecimal
digits in it and around them nothing but quotes. The tag of an object that was
uploaded in parts, a weak tag and any other tag are no digests.
-/

namespace ObjectStore.ObjectInfo

/-- A tag shows a digest: it is thirty-two digits for the bytes of the digest, with
any number of quotes at either end. -/
def ShowsDigest (tag : String) (d : Bytes) : Prop :=
  ∃ front digits back, tag.toList = front ++ digits ++ back ∧ (∀ c ∈ front ++ back, c = '"') ∧
    digits.length = 32 ∧ Hex.Denotes digits d

/-- Tags that are not the digest of one body. -/
inductive NoDigest (tag : String) : Prop
  /-- The number of parts of an upload stands behind a dash. -/
  | multipart (front parts back : List Char) (htag : tag.toList = front ++ '-' :: parts ++ back)
      (hparts : parts ≠ [] ∧ ∀ c ∈ parts, c.isDigit = true) (hback : ∀ c ∈ back, c = '"')
  | weak (front rest : List Char) (htag : tag.toList = front ++ 'W' :: '/' :: rest)
      (hfront : ∀ c ∈ front, c = '"')
  | shortened (front digits back : List Char) (htag : tag.toList = front ++ digits ++ back)
      (hquotes : ∀ c ∈ front ++ back, c = '"') (hlt : digits.length < 32)
  /-- A quote stands between other characters. -/
  | innerQuote (front back : List Char) (htag : tag.toList = front ++ '"' :: back)
      (hfront : ∃ c ∈ front, c ≠ '"') (hback : ∃ c ∈ back, c ≠ '"')
  | nonAscii (c : Char) (hmem : c ∈ tag.toList) (hc : 0x80 ≤ c.toNat)

/-! ## Digits between quotes -/

theorem not_quote_of_mem_digits : ∀ c ∈ Hex.digits, (c == '"') = false :=
  List.forall_iff_forall_mem.mp (by decide)

theorem trimBy_quoted {front middle back : List Char} (hquotes : ∀ c ∈ front ++ back, c = '"') :
    trimBy (· == '"') (front ++ middle ++ back) = trimBy (· == '"') middle := by
  obtain ⟨hfront, hback⟩ := List.forall_mem_append.mp hquotes
  exact trimBy_surrounded (fun c hc => beq_iff_eq.mpr (hfront c hc))
    fun c hc => beq_iff_eq.mpr (hback c hc)

theorem trimBy_digits {digits : List Char} (h : ∀ c ∈ digits, c ∈ Hex.digits) :
    trimBy (· == '"') digits = digits :=
  trimBy_of_ends
    (fun c hc => not_quote_of_mem_digits c (h c (List.mem_of_mem_head? hc)))
    fun c hc => not_quote_of_mem_digits c (h c (List.mem_of_getLast? hc))

/-- What a tag shows is what is left when quotes are taken off its ends. -/
theorem showsDigest_iff {tag : String} {d : Bytes} :
    ShowsDigest tag d ↔ (trimBy (· == '"') tag.toList).length = 32 ∧
      Hex.Denotes (trimBy (· == '"') tag.toList) d := by
  constructor
  · rintro ⟨front, digits, back, htag, hquotes, hlength, hd⟩
    rw [htag, trimBy_quoted hquotes, trimBy_digits hd.mem_digits]
    exact ⟨hlength, hd⟩
  · rintro ⟨hlength, hd⟩
    obtain ⟨front, back, hfront, hback, htag⟩ := exists_eq_append_trimBy (· == '"') tag.toList
    refine ⟨front, _, back, htag, fun c hc => beq_iff_eq.mp ?_, hlength, hd⟩
    exact (List.mem_append.mp hc).elim (hfront c) (hback c)

/-- A digest is read from the tags that show it and from no others. -/
theorem digestOfTag_eq_some_iff {tag : String} {d : Bytes} :
    digestOfTag tag = some d ↔ ShowsDigest tag d := by
  rw [showsDigest_iff, ← Hex.decode?_eq_some_iff, digestOfTag]
  split
  · next hlength => rw [and_iff_right hlength]
  · next hlength => exact ⟨(by cases ·), fun h => absurd h.1 hlength⟩

/-- Bytes may be counted for characters. They are more than the characters only where
one of these is no digit. -/
theorem digestOfTag_eq_of_bytes (tag : String) :
    digestOfTag tag =
      if (Utf8.encode (String.ofList (trimBy (· == '"') tag.toList))).length = 32 then
        Hex.decode? (trimBy (· == '"') tag.toList)
      else none := by
  rw [digestOfTag]
  generalize trimBy (· == '"') tag.toList = digits
  cases hread : Hex.decode? digits with
  | none => rw [ite_self, ite_self]
  | some d =>
      have hdigits := (Hex.decode?_eq_some_iff.mp hread).mem_digits
      have hascii : ∀ c ∈ digits, c.toNat < 0x80 :=
        fun c hc => Hex.ascii_of_mem_digits c (hdigits c hc)
      rw [Utf8.encode_ofList, Utf8.encodeChars_ascii hascii, List.length_map]

theorem ShowsDigest.length_eq {tag : String} {d : Bytes} (h : ShowsDigest tag d) :
    d.length = 16 := by
  obtain ⟨-, digits, -, -, -, hlength, hd⟩ := h
  have htwice := hd.length_eq
  omega

theorem showsDigest_quoted {text : String} {d : Bytes} (hlength : d.length = 16)
    (hd : Hex.Denotes text.toList d) : ShowsDigest ("\"" ++ text ++ "\"") d := by
  refine ⟨['"'], text.toList, ['"'], ?_, List.forall_iff_forall_mem.mp (by decide),
    by rw [hd.length_eq, hlength], hd⟩
  rw [String.toList_append, String.toList_append]
  rfl

/-! ## Tags that show no digest -/

theorem ShowsDigest.mem_digits {tag : String} {d : Bytes} (h : ShowsDigest tag d) {c : Char}
    (hmem : c ∈ tag.toList) (hc : c ≠ '"') : c ∈ Hex.digits := by
  obtain ⟨front, digits, back, htag, hquotes, -, hd⟩ := h
  obtain ⟨hfront, hback⟩ := List.forall_mem_append.mp hquotes
  rw [htag, List.append_assoc, List.mem_append, List.mem_append] at hmem
  rcases hmem with hmem | hmem | hmem
  · exact absurd (hfront c hmem) hc
  · exact hd.mem_digits c hmem
  · exact absurd (hback c hmem) hc

theorem NoDigest.not_showsDigest {tag : String} (h : NoDigest tag) (d : Bytes) :
    ¬ShowsDigest tag d := by
  intro hshows
  cases h with
  | multipart front parts back htag =>
      have hdash : '-' ∈ tag.toList := by simp [htag]
      exact absurd (hshows.mem_digits hdash (by decide)) (by decide)
  | weak front rest htag =>
      have hslash : '/' ∈ tag.toList := by simp [htag]
      exact absurd (hshows.mem_digits hslash (by decide)) (by decide)
  | shortened front digits back htag hquotes hlt =>
      have hlength := (showsDigest_iff.mp hshows).1
      rw [htag, trimBy_quoted hquotes] at hlength
      have hle := length_trimBy_le (· == '"') digits
      omega
  | innerQuote front back htag hfront hback =>
      have hd := (showsDigest_iff.mp hshows).2
      have hstays : '"' ∈ trimBy (· == '"') tag.toList := by
        rw [htag]
        exact mem_trimBy_of_between
          (hfront.imp fun c hc => ⟨hc.1, beq_eq_false_iff_ne.mpr hc.2⟩)
          (hback.imp fun c hc => ⟨hc.1, beq_eq_false_iff_ne.mpr hc.2⟩)
      exact absurd (hd.mem_digits _ hstays) (by decide)
  | nonAscii c hmem hc =>
      have hquote : c ≠ '"' := by
        rintro rfl
        exact absurd hc (by decide)
      have hlt := Hex.ascii_of_mem_digits c (hshows.mem_digits hmem hquote)
      omega

/-! ## The digest of an object -/

/-- **The digest of an object is exactly what its tag shows.** It has sixteen bytes. They
are read from their digits between quotes, in lower case and in upper case, and never
from a tag of an upload in parts, a weak or a shortened one, one with a quote inside
or one that is not ASCII. -/
theorem digest_exactly_as_shown (i : ObjectInfo) :
    (∀ d, i.digest? = some d ↔ ShowsDigest i.eTag d) ∧
      (∀ d, i.digest? = some d → d.length = 16) ∧
      (∀ d : Bytes, d.length = 16 →
        i.eTag = "\"" ++ Hex.encode d ++ "\"" ∨ i.eTag = "\"" ++ (Hex.encode d).toUpper ++ "\"" →
          i.digest? = some d) ∧
      (NoDigest i.eTag → i.digest? = none) := by
  have hshows (d : Bytes) : i.digest? = some d ↔ ShowsDigest i.eTag d := digestOfTag_eq_some_iff
  refine ⟨hshows, fun d hd => ((hshows d).mp hd).length_eq, fun d hlength htag => ?_,
    fun hno => ?_⟩
  · rw [hshows]
    rcases htag with htag | htag <;> rw [htag]
    · exact showsDigest_quoted hlength (Hex.denotes_encode d)
    · exact showsDigest_quoted hlength (Hex.denotes_encode d).toUpper
  · exact Option.eq_none_iff_forall_ne_some.mpr fun d hd =>
      hno.not_showsDigest d ((hshows d).mp hd)

def emptyWith (eTag : String) : ObjectInfo := ⟨0, eTag, none, none, ∅⟩

theorem digest_exactly_as_shown_upperCase :
    (emptyWith "\"D41D8CD98F00B204E9800998ECF8427E\"").digest? =
        some [0xD4, 0x1D, 0x8C, 0xD9, 0x8F, 0x00, 0xB2, 0x04,
          0xE9, 0x80, 0x09, 0x98, 0xEC, 0xF8, 0x42, 0x7E] ∧
      (emptyWith "\"d41d8cd98f00b204e9800998ecf8427e-2\"").digest? = none := by
  obtain ⟨-, -, hquoted, -⟩ :=
    digest_exactly_as_shown (emptyWith "\"D41D8CD98F00B204E9800998ECF8427E\"")
  obtain ⟨-, -, -, hnone⟩ :=
    digest_exactly_as_shown (emptyWith "\"d41d8cd98f00b204e9800998ecf8427e-2\"")
  refine ⟨hquoted _ (by decide) (.inr ?_), hnone ?_⟩
  · rw [String.toUpper, String.map_eq_internal]
    decide
  · exact .multipart "\"d41d8cd98f00b204e9800998ecf8427e".toList ['2'] ['"'] (by decide)
      ⟨by decide, List.forall_iff_forall_mem.mp (by decide)⟩
      (List.forall_iff_forall_mem.mp (by decide))

end ObjectStore.ObjectInfo
