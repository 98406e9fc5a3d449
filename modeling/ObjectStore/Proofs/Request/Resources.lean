import ObjectStore.Naming
import ObjectStore.Proofs.Request.Preparing
import ObjectStore.Proofs.Url.Paths

/-!
# The resource of an object

The key of an object becomes part of the path of a URL. A slash in a key stands
for itself and so divides the path where it divides the key; every character
that a URL would read in its own way is escaped. What is left are the segments
`.` and `..`, and a request is refused because of its path just where one of
them stands in the key. From every other path the bucket and the key are read
back.
-/

namespace ObjectStore

/-- A key with a segment that a URL would resolve. -/
def HasDotSegment (key : String) : Prop :=
  ∃ segment ∈ keySegments key, segment = ['.'] ∨ segment = ['.', '.']

theorem hasDotSegment_iff {key : String} :
    HasDotSegment key ↔ (keySegments key).any isDotSegment = true := by
  simp only [HasDotSegment, isDotSegment, List.any_eq_true, Bool.or_eq_true, beq_iff_eq]

theorem checkKey_eq_ok {key : String} :
    checkKey key = .ok () ↔
      (Utf8.encode key).length ≠ 0 ∧ (Utf8.encode key).length ≤ 1024 ∧
        key.toList.head? ≠ some '/' ∧ (∀ c ∈ key.toList, c ≠ '\r' ∧ c ≠ '\n') ∧
        ¬HasDotSegment key := by
  have hbreak : (key.toList.any fun c => c == '\r' || c == '\n') = true ↔
      ¬∀ c ∈ key.toList, c ≠ '\r' ∧ c ≠ '\n' := by
    simp only [List.any_eq_true, Bool.or_eq_true, beq_iff_eq, not_forall, not_and_or, not_not,
      exists_prop]
  rw [hasDotSegment_iff]
  unfold checkKey
  dsimp only
  constructor
  · intro hok
    split_ifs at hok with hempty hlong hhead hline hdot
    rw [hbreak, not_not] at hline
    exact ⟨hempty, Nat.not_lt.mp hlong, hhead, hline, hdot⟩
  · rintro ⟨hempty, hlong, hhead, hline, hdot⟩
    rw [if_neg hempty, if_neg (Nat.not_lt.mpr hlong), if_neg hhead,
      if_neg (fun h => hbreak.mp h hline), if_neg hdot]

/-- The check of a key passes none of them, and finds fault with no other key on
their account. -/
theorem checkKey_dotSegment (key : String) :
    (checkKey key = .ok () → ¬HasDotSegment key) ∧
      ∀ key', checkKey key = .error (.keyHasDotSegment key') → HasDotSegment key := by
  rw [hasDotSegment_iff]
  unfold checkKey
  dsimp only
  constructor
  · intro hok hdot
    split_ifs at hok
  · intro key' herror
    by_contra hdot
    rw [if_neg hdot] at herror
    split_ifs at herror <;> cases herror

/-! ## The segments of a path -/

open Percent (keptInKey readable_keptInKey)

theorem isKeyChar_of_mem_encode {key : String} {c : Char}
    (h : c ∈ (Percent.encode keptInKey key).toList) : UrlPath.isKeyChar c = true := by
  obtain ⟨hascii, hkept⟩ := Percent.mem_encode readable_keptInKey h
  simpa only [UrlPath.isKeyChar, hascii, decide_true, Bool.true_and, Bool.or_eq_true,
    beq_iff_eq] using hkept

/-- The segments of a key are the segments of what it is written as. -/
theorem splitWhere_encode (key : String) :
    splitWhere (· == '/') (Percent.encode keptInKey key).toList =
      (keySegments key).map fun segment =>
        (Percent.encode keptInKey (String.ofList segment)).toList := by
  have hwritten (cs : List Char) : (Percent.encode keptInKey (String.ofList cs)).toList =
      cs.flatMap fun c => Percent.encodeBytes keptInKey (String.utf8EncodeChar c) := by
    rw [Percent.encode, String.toList_ofList, Utf8.encode_ofList, Percent.encodeBytes,
      List.flatMap_assoc]
    rfl
  have hslash : ∀ c : Char, (c == '/') = true → ∃ d,
      Percent.encodeBytes keptInKey (String.utf8EncodeChar c) = [d] ∧ (d == '/') = true := by
    intro c hc
    obtain rfl := beq_iff_eq.mp hc
    exact ⟨'/', by decide +kernel, rfl⟩
  have hother : ∀ c : Char, (c == '/') = false →
      ∀ d ∈ Percent.encodeBytes keptInKey (String.utf8EncodeChar c), (d == '/') = false := by
    intro c hc d hd
    rw [beq_eq_false_iff_ne] at hc ⊢
    rintro rfl
    -- a slash that is written is a byte of the character, and no other has this byte
    have hmem : '/' ∈ (Percent.encode keptInKey (String.ofList [c])).toList := by
      rw [hwritten, List.flatMap_singleton]
      exact hd
    have hback := (Percent.mem_of_mem_encode (by decide) (Percent.ne_upperDigit (by decide))
      (by decide) hmem).2
    rw [String.toList_ofList, List.mem_singleton] at hback
    exact hc hback.symm
  have hkey := hwritten key.toList
  rw [String.ofList_toList] at hkey
  rw [hkey, splitWhere_flatMap hslash hother, keySegments]
  simp only [hwritten]

/-- A segment that is written is resolved if it was `.` or `..` before. -/
theorem isResolved_encode (segment : List Char) :
    UrlPath.isResolved (Percent.encode keptInKey (String.ofList segment)) = true ↔
      segment = ['.'] ∨ segment = ['.', '.'] := by
  have hspelled : ∀ spelling : String, UrlPath.isResolved spelling = true →
      Percent.decode (Utf8.encode spelling) = Utf8.encode (String.ofList ['.']) ∨
        Percent.decode (Utf8.encode spelling) = Utf8.encode (String.ofList ['.', '.']) := by
    intro spelling h
    simp only [UrlPath.isResolved, UrlPath.isDoubleDot, UrlPath.isDot, Bool.or_eq_true,
      List.contains_iff_mem, ← List.mem_append] at h
    revert spelling
    decide +kernel
  constructor
  · intro h
    have hback := hspelled _ h
    rw [Percent.decode_encode readable_keptInKey] at hback
    exact hback.imp (fun heq => String.ofList_inj.mp (Utf8.encode_injective heq))
      fun heq => String.ofList_inj.mp (Utf8.encode_injective heq)
  · rintro (rfl | rfl)
    · decide +kernel
    · decide +kernel

def objectSegments (bucket key : String) : List String :=
  bucket :: (keySegments key).map fun segment => Percent.encode keptInKey (String.ofList segment)

/-- An operation on an object in a bucket whose name was checked. -/
structure Operation.OnObject (op : Operation) (bucket key : String) : Prop where
  checked : checkBucket bucket = .ok ()
  bucket : op.bucket = some bucket
  key : op.key = some key

/-- The characters of a name that was checked stand for themselves in a path, and
none divides it. -/
theorem isKeyChar_of_checkBucket {bucket : String} (h : checkBucket bucket = .ok ()) {c : Char}
    (hc : c ∈ bucket.toList) : UrlPath.isKeyChar c = true ∧ c ≠ '/' := by
  have htable : ∀ n < 0x80, isBucketChar (Char.ofNat n) = true →
      UrlPath.isKeyChar (Char.ofNat n) = true ∧ Char.ofNat n ≠ '/' := by
    decide +kernel
  have hchar : isBucketChar c = true := by
    unfold checkBucket at h
    dsimp only at h
    split_ifs at h with _ hchars
    exact List.all_eq_true.mp hchars c hc
  have hascii : c.toNat < 0x80 := by
    have hbound : ∀ d : Char, c ≤ d → d.toNat < 0x80 → c.toNat < 0x80 := fun d hle hd =>
      Nat.lt_of_le_of_lt (UInt32.le_iff_toNat_le.mp (Char.le_def.mp hle)) hd
    simp only [isBucketChar, Bool.or_eq_true, Bool.and_eq_true, decide_eq_true_eq,
      beq_iff_eq] at hchar
    rcases hchar with ((⟨-, hletter⟩ | ⟨-, hdigit⟩) | rfl) | rfl
    · exact hbound 'z' hletter (by decide)
    · exact hbound '9' hdigit (by decide)
    · decide
    · decide
  exact Char.ofNat_toNat c ▸ htable c.toNat hascii ((Char.ofNat_toNat c).symm ▸ hchar)

/-- A name that was checked is too long to be resolved, or not written as it
would have to be. -/
theorem not_isResolved_of_checkBucket {bucket : String} (h : checkBucket bucket = .ok ()) :
    UrlPath.isResolved bucket = false := by
  have hrefused : ∀ name : String, UrlPath.isResolved name = true → checkBucket name ≠ .ok () := by
    intro name hname
    simp only [UrlPath.isResolved, UrlPath.isDoubleDot, UrlPath.isDot, Bool.or_eq_true,
      List.contains_iff_mem, ← List.mem_append] at hname
    revert name
    decide +kernel
  cases hresolved : UrlPath.isResolved bucket with
  | false => rfl
  | true => exact absurd h (hrefused bucket hresolved)

namespace Operation.OnObject

variable {op : Operation} {bucket key : String} (h : op.OnObject bucket key)
include h

theorem path_eq : op.path = "/" ++ bucket ++ "/" ++ Percent.encode keptInKey key := by
  rw [Operation.path, h.bucket, h.key]

theorem toList_path : op.path.toList =
    '/' :: (bucket.toList ++ '/' :: (Percent.encode keptInKey key).toList) := by
  rw [h.path_eq]
  simp only [String.toList_append, List.append_assoc]
  rfl

theorem path_eq_join : op.path = UrlPath.join (objectSegments bucket key) := by
  have hkey : (Percent.encode keptInKey key).toList =
      ['/'].intercalate ((keySegments key).map fun segment =>
        (Percent.encode keptInKey (String.ofList segment)).toList) := by
    rw [← splitWhere_encode, intercalate_splitWhere]
  have hne : ((keySegments key).map fun segment =>
      (Percent.encode keptInKey (String.ofList segment)).toList) ≠ [] := by
    rw [Ne, List.map_eq_nil_iff]
    exact splitWhere_ne_nil _ _
  have hbehind := flatMap_cons_intercalate (s := '/') hne
  rw [← hkey, List.flatMap_map] at hbehind
  rw [← String.toList_inj, h.toList_path, UrlPath.toList_join, objectSegments,
    List.flatMap_cons, List.flatMap_map, hbehind]
  rfl

/-- The path of an object arrives if its key has no dot segment. -/
theorem path_withPath_eq_iff {u : Url} (hu : u.IsWeb) :
    (u.withPath op.path).path = op.path ↔ ¬HasDotSegment key := by
  have hchars : ∀ s ∈ objectSegments bucket key, ∀ c ∈ s.toList,
      UrlPath.isKeyChar c = true ∧ c ≠ '/' := by
    intro s hs c hc
    rcases List.mem_cons.mp hs with rfl | hs
    · exact isKeyChar_of_checkBucket h.checked hc
    · obtain ⟨segment, hsegment, rfl⟩ := List.mem_map.mp hs
      refine ⟨isKeyChar_of_mem_encode hc, ?_⟩
      have hpart : (Percent.encode keptInKey (String.ofList segment)).toList ∈
          splitWhere (· == '/') (Percent.encode keptInKey key).toList := by
        rw [splitWhere_encode]
        exact List.mem_map_of_mem hsegment
      exact beq_eq_false_iff_ne.mp (not_of_mem_splitWhere hpart c hc)
  have hne : objectSegments bucket key ≠ [] := List.cons_ne_nil _ _
  rw [h.path_eq_join, Url.path_withPath_eq_iff hu hne hchars, HasDotSegment]
  constructor
  · rintro hplain ⟨segment, hsegment, hdot⟩
    have hresolved := (isResolved_encode segment).mpr hdot
    rw [hplain _ (List.mem_cons_of_mem _ (List.mem_map_of_mem hsegment))] at hresolved
    cases hresolved
  · intro hnone s hs
    rcases List.mem_cons.mp hs with rfl | hs
    · exact not_isResolved_of_checkBucket h.checked
    · obtain ⟨segment, hsegment, rfl⟩ := List.mem_map.mp hs
      cases hresolved : UrlPath.isResolved (Percent.encode keptInKey (String.ofList segment)) with
      | false => rfl
      | true => exact absurd ⟨segment, hsegment, (isResolved_encode segment).mp hresolved⟩ hnone

theorem injective {op' : Operation} {bucket' key' : String} (h' : op'.OnObject bucket' key')
    (heq : op'.path = op.path) : bucket' = bucket ∧ key' = key := by
  have hslash {name : String} (hname : checkBucket name = .ok ()) : '/' ∉ name.toList :=
    fun hc => (isKeyChar_of_checkBucket hname hc).2 rfl
  rw [← String.toList_inj, h'.toList_path, h.toList_path] at heq
  obtain ⟨hbucket, hkey⟩ :=
    (append_cons_inj (hslash h'.checked) (hslash h.checked)).mp (List.cons.inj heq).2
  exact ⟨String.toList_inj.mp hbucket,
    Percent.encode_injective readable_keptInKey (String.toList_inj.mp hkey)⟩

end Operation.OnObject

/-! ## What becomes of the path of a request -/

namespace Client

variable {c : Client} {op : Operation} {now : Instant}

/-- **Keys arrive.** At an endpoint of the web, a request for an object is refused
because of its path if a segment of the key is `.` or `..`, and for no other key;
this is what the check of a key finds fault with. In every other case the path
of the request is the bucket and the key as it is written, what follows the
bucket reads back as the key, and no other object has this path. -/
theorem keys_arrive {bucket key : String} (hc : c.endpoint.IsWeb)
    (h : op.OnObject bucket key) (now : Instant) :
    ((∃ resource sent, c.prepare op now = .error (.request (.pathChanged resource sent))) ↔
        c.HeadersFit op now ∧ HasDotSegment key) ∧
      ((∃ r, c.prepare op now = .ok r) ↔ c.HeadersFit op now ∧ ¬HasDotSegment key) ∧
      (checkKey key = .ok () → ¬HasDotSegment key) ∧
      (∀ key', checkKey key = .error (.keyHasDotSegment key') → HasDotSegment key) ∧
      ∀ r, c.prepare op now = .ok r →
        r.url.path = "/" ++ bucket ++ "/" ++ Percent.encode keptInKey key ∧
        Percent.decode ((Utf8.encode r.url.path).drop (Utf8.encode ("/" ++ bucket ++ "/")).length) =
          Utf8.encode key ∧
        ∀ (c' : Client) (op' : Operation) (bucket' key' : String) (now' : Instant) (r' : Request),
          c'.endpoint.IsWeb → op'.OnObject bucket' key' → c'.prepare op' now' = .ok r' →
          r'.url.path = r.url.path → bucket' = bucket ∧ key' = key := by
  have harrives := h.path_withPath_eq_iff hc
  refine ⟨?_, ?_, (checkKey_dotSegment key).1, (checkKey_dotSegment key).2, ?_⟩
  · rw [prepare_pathChanged_iff, Ne, harrives, not_not]
  · rw [exists_prepare_iff, harrives]
  intro r hr
  have hpath := (path_of_prepare hr).1
  refine ⟨hpath.trans h.path_eq, ?_, ?_⟩
  · rw [hpath, h.path_eq, Utf8.encode_append ("/" ++ bucket ++ "/"), List.drop_left]
    exact Percent.decode_encode readable_keptInKey key
  · intro c' op' bucket' key' now' r' _ h' hr' heq
    rw [(path_of_prepare hr').1, hpath] at heq
    exact h.injective h' heq

def puttingNote : Operation := ((Operation.ofVerb .put).withBucket "logs").withKey "a b/..c"

theorem keys_arrive_puttingNote :
    (ofLocalService 1024).endpoint.IsWeb ∧ puttingNote.OnObject "logs" "a b/..c" ∧
      ∃ r, (ofLocalService 1024).prepare puttingNote ⟨0⟩ = .ok r ∧
        r.url.path = "/logs/a%20b/..c" ∧
        Percent.decode ((Utf8.encode r.url.path).drop 6) = Utf8.encode "a b/..c" := by
  have hweb : (ofLocalService 1024).endpoint.IsWeb := Or.inl rfl
  have hobject : puttingNote.OnObject "logs" "a b/..c" := ⟨by decide, rfl, rfl⟩
  obtain ⟨r, hr⟩ : ∃ r, (ofLocalService 1024).prepare puttingNote ⟨0⟩ = .ok r :=
    exists_request LowerCase.empty (by decide) (by decide) (by decide +kernel)
  obtain ⟨hpath, hback, -⟩ := (keys_arrive hweb hobject ⟨0⟩).2.2.2.2 r hr
  exact ⟨hweb, hobject, r, hr, hpath.trans (by decide +kernel), hback⟩

end Client
end ObjectStore
