import Mathlib.Data.List.TakeWhile
import ObjectStore.Encoding.Form
import ObjectStore.Proofs.Encoding.Percent
import ObjectStore.Proofs.Text.Utf8
import ObjectStore.Text.Split

/-!
# Queries read back

A query is read by splitting it at every `&`, splitting each part at its first
`=`, and undoing the form encoding of names and values. What was written into
a query is read out of it again: an encoded text holds none of the two
characters, and each of its bytes reads back by itself. Only a parameter
without a name and a value, in front of all others, leaves no trace.
-/

namespace ObjectStore.Form

/-! ## Reading -/

def read (cs : List Char) : String :=
  String.ofList (Utf8.decodeLossy (decode (Utf8.encode (String.ofList cs))))

def readParameter (part : List Char) : String × Option String :=
  match part.dropWhile (· != '=') with
  | [] => (read part, none)
  | _ :: value => (read (part.takeWhile (· != '=')), some (read value))

def readQuery (query : List Char) : List (String × Option String) :=
  (splitWhere (· == '&') query).map readParameter

/-! ## Bytes -/

theorem readable_isKept : Percent.Readable isKept where
  ascii b hb := by
    simp only [isKept, Percent.isAlphanumeric, Bool.or_eq_true, Bool.and_eq_true,
      decide_eq_true_eq, beq_iff_eq, UInt8.le_iff_toNat_le, ← UInt8.toNat_inj,
      UInt8.reduceToNat] at hb
    omega
  alphanumeric b hb := by simp only [isKept, hb, Bool.true_or]
  percent := by decide

def unplus (b : UInt8) : UInt8 := if b = 0x2B then 0x20 else b

theorem mem_encodeByte {b : UInt8} {c : Char} (h : c ∈ encodeByte b) :
    c.toNat < 0x80 ∧ c ≠ '&' ∧ c ≠ '=' := by
  unfold encodeByte at h
  split at h
  · obtain rfl := List.mem_singleton.mp h
    decide
  · obtain ⟨hascii, hc⟩ := Percent.mem_encodeByte readable_isKept h
    refine ⟨hascii, ?_, ?_⟩
    · rintro rfl
      exact absurd hc (by decide)
    · rintro rfl
      exact absurd hc (by decide)

theorem mem_encode {s : String} {c : Char} (h : c ∈ encode s) :
    c.toNat < 0x80 ∧ c ≠ '&' ∧ c ≠ '=' := by
  obtain ⟨b, -, hc⟩ := List.mem_flatMap.mp h
  exact mem_encodeByte hc

theorem decode_encodeByte (b : UInt8) (rest : Bytes) :
    Percent.decode ((encodeByte b).map (fun c => unplus (UInt8.ofNat c.toNat)) ++ rest) =
      b :: Percent.decode rest := by
  unfold encodeByte
  split
  · next hspace =>
      rw [hspace]
      exact Percent.decode_cons_of_ne (by decide) rest
  · -- a plus sign that is not a space is escaped
    have hplus : (Percent.encodeByte isKept b).map (fun c => unplus (UInt8.ofNat c.toNat)) =
        (Percent.encodeByte isKept b).map fun c => UInt8.ofNat c.toNat := by
      apply List.map_congr_left
      intro c hc
      apply if_neg
      intro heq
      rcases (Percent.mem_encodeByte readable_isKept hc).2 with rfl | hkept
      · exact absurd heq (by decide)
      · rw [heq] at hkept
        exact absurd hkept (by decide)
    rw [hplus]
    exact Percent.decode_encodeByte readable_isKept b rest

theorem read_encode (s : String) : read (encode s) = s := by
  have hbytes : decode (Utf8.encode (String.ofList (encode s))) = Utf8.encode s := by
    rw [Utf8.encode_ofList, Utf8.encodeChars_ascii fun c hc => (mem_encode hc).1]
    show Percent.decode (((encode s).map fun c => UInt8.ofNat c.toNat).map unplus) = _
    rw [List.map_map, encode]
    induction Utf8.encode s with
    | nil => rfl
    | cons b bs ih =>
        rw [List.flatMap_cons, List.map_append]
        exact (decode_encodeByte b _).trans (congrArg (b :: ·) ih)
  rw [read, hbytes, Utf8.decodeLossy_encode, String.ofList_toList]

/-! ## Parameters -/

/-- No part of a query is split any further. -/
theorem splitWhere_parameter (p : String × Option String) :
    splitWhere (· == '&') (parameter p) = [parameter p] := by
  apply splitWhere_of_none
  intro c hc
  rw [beq_eq_false_iff_ne]
  obtain ⟨name, _ | value⟩ := p
  · exact (mem_encode hc).2.1
  · rcases List.mem_append.mp hc with hc | hc
    · exact (mem_encode hc).2.1
    · rcases List.mem_cons.mp hc with rfl | hc
      · decide
      · exact (mem_encode hc).2.1

theorem readParameter_parameter (p : String × Option String) :
    readParameter (parameter p) = p := by
  obtain ⟨name, value⟩ := p
  have hname : ∀ c ∈ encode name, (c != '=') = true := by
    intro c hc
    rw [bne_iff_ne]
    exact (mem_encode hc).2.2
  cases value with
  | none =>
      have hdrop : (encode name).dropWhile (· != '=') = [] := List.dropWhile_eq_nil_iff.mpr hname
      simp only [readParameter, parameter, hdrop, read_encode]
  | some v =>
      have hdrop : (encode name ++ '=' :: encode v).dropWhile (· != '=') = '=' :: encode v := by
        rw [List.dropWhile_append_of_pos hname]
        rfl
      have htake : (encode name ++ '=' :: encode v).takeWhile (· != '=') = encode name := by
        rw [List.takeWhile_append_of_pos hname, List.takeWhile_cons_of_neg (by decide),
          List.append_nil]
      simp only [readParameter, parameter, hdrop, htake, read_encode]

theorem readParameter_nil : readParameter [] = ("", none) := readParameter_parameter ("", none)

theorem append_cons (query : List Char) (p : String × Option String)
    (rest : List (String × Option String)) :
    append query (p :: rest) =
      append ((if query = [] then [] else query ++ ['&']) ++ parameter p) rest := rfl

/-- Behind a query that is not empty every parameter is a part of its own. -/
theorem splitWhere_append {query : List Char} (h : query ≠ [])
    (ps : List (String × Option String)) :
    splitWhere (· == '&') (append query ps) =
      splitWhere (· == '&') query ++ ps.map parameter := by
  induction ps generalizing query with
  | nil => exact (List.append_nil _).symm
  | cons p rest ih =>
      have hne : query ++ '&' :: parameter p ≠ [] :=
        List.append_ne_nil_of_left_ne_nil h _
      rw [append_cons, if_neg h, List.append_assoc, List.singleton_append, ih hne,
        splitWhere_append_cons (by decide), splitWhere_parameter, List.append_assoc]
      rfl

theorem eq_of_parameter_eq_nil {p : String × Option String} (h : parameter p = []) :
    p = ("", none) := by
  rw [← readParameter_parameter p, h, readParameter_nil]

theorem readQuery_append_behind {query : List Char} (h : query ≠ [])
    (ps : List (String × Option String)) :
    readQuery (append query ps) = readQuery query ++ ps := by
  have hps : (ps.map parameter).map readParameter = ps := by
    rw [List.map_map]
    exact (List.map_congr_left fun p _ => readParameter_parameter p).trans (List.map_id ps)
  rw [readQuery, splitWhere_append h, List.map_append, hps]
  rfl

/-- A query is read as its parameters if the first of them leaves something. -/
theorem readQuery_append_cons {p : String × Option String} (h : parameter p ≠ [])
    (rest : List (String × Option String)) : readQuery (append [] (p :: rest)) = p :: rest := by
  rw [append_cons, if_pos rfl, List.nil_append, readQuery_append_behind h, readQuery,
    splitWhere_parameter, List.map_singleton, readParameter_parameter, List.singleton_append]

/-- **The parameters of a query read back**, those that are looked for. A
parameter without a name is not among them. -/
theorem readQuery_append {wanted : String → Bool} (hnameless : wanted "" = false)
    (ps : List (String × Option String)) :
    (readQuery (append [] ps)).filter (fun p => wanted p.1) =
      ps.filter fun p => wanted p.1 := by
  induction ps with
  | nil =>
      show [readParameter []].filter _ = []
      rw [readParameter_nil, List.filter_cons_of_neg (by simp [hnameless]), List.filter_nil]
  | cons p rest ih =>
      by_cases hempty : parameter p = []
      · -- the query is still empty, so the next parameter is the first part again
        rw [append_cons, if_pos rfl, List.nil_append, hempty, ih, eq_of_parameter_eq_nil hempty,
          List.filter_cons_of_neg (by simp [hnameless])]
      · rw [readQuery_append_cons hempty]

theorem readQuery_append_of_named {ps : List (String × Option String)} (hne : ps ≠ [])
    (hnames : ∀ p ∈ ps, p.1 ≠ "") : readQuery (append [] ps) = ps := by
  obtain ⟨p, rest, rfl⟩ := List.exists_cons_of_ne_nil hne
  refine readQuery_append_cons (fun hempty => ?_) rest
  exact hnames p List.mem_cons_self (congrArg Prod.fst (eq_of_parameter_eq_nil hempty))

theorem snd_readParameter_eq_none {part : List Char} :
    (readParameter part).2 = none ↔ '=' ∉ part := by
  unfold readParameter
  cases hdrop : part.dropWhile (· != '=') with
  | nil =>
      have hnone : ∀ c ∈ part, (c != '=') = true := List.dropWhile_eq_nil_iff.mp hdrop
      refine ⟨fun _ hmem => ?_, fun _ => rfl⟩
      exact absurd (hnone '=' hmem) (by decide)
  | cons c value =>
      have hc : (c != '=') = false := by
        have hhead := List.head?_dropWhile_not (· != '=') part
        rw [hdrop] at hhead
        exact hhead
      obtain rfl : c = '=' := by simpa using hc
      have hmem : '=' ∈ part :=
        (List.dropWhile_sublist _).subset (hdrop ▸ List.mem_cons_self)
      exact ⟨fun h => (nomatch h), fun h => absurd hmem h⟩

/-! ## Queries that were not empty -/

theorem append_one_injective {p : String × Option String} {query query' : List Char}
    (h : (if query = [] then [] else query ++ ['&']) ++ parameter p =
      (if query' = [] then [] else query' ++ ['&']) ++ parameter p) : query = query' := by
  have hfront := List.append_cancel_right h
  split at hfront
  · next hnone =>
      split at hfront
      · next hnone' => rw [hnone, hnone']
      · simp at hfront
  · split at hfront
    · simp at hfront
    · exact List.append_cancel_right hfront

/-- Queries that differ still do when parameters are added. -/
theorem append_inj {ps : List (String × Option String)} {query query' : List Char} :
    append query ps = append query' ps ↔ query = query' := by
  refine ⟨fun h => ?_, fun h => by rw [h]⟩
  induction ps generalizing query query' with
  | nil => exact h
  | cons p rest ih => exact append_one_injective (ih h)

end ObjectStore.Form
