import Mathlib.Data.List.Infix
import Mathlib.Data.List.TakeWhile
import ObjectStore.Proofs.Xml.Content

/-!
# Where tokens and elements end

Apart from a run of text, a token ends at a byte of its own: a tag at its
bracket, a reference at its semicolon. It is the same token whatever follows.
So the root of a document, once it has ended, has ended in every document that
begins in the same way, and as its last byte is a bracket, it ends nowhere
before that.
-/

namespace ObjectStore.Xml

/-! ## Marks -/

/-- What is looked for at the front of a long text depends on nothing behind it. -/
theorem isPrefixOf_append_congr {mark front : Bytes} (h : mark.length ≤ front.length)
    (rest more : Bytes) : mark.isPrefixOf (front ++ rest) = mark.isPrefixOf (front ++ more) := by
  rw [Bool.eq_iff_iff, List.isPrefixOf_iff_prefix, List.isPrefixOf_iff_prefix,
    List.isPrefix_append_of_length h, List.isPrefix_append_of_length h]

theorem map_cons_eq_some {read : Option (Bytes × Bytes)} {b : UInt8} {front rest : Bytes} :
    read.map (fun p => (b :: p.1, p.2)) = some (front, rest) ↔
      ∃ front', read = some (front', rest) ∧ front = b :: front' := by
  rw [Option.map_eq_some_iff]
  constructor
  · rintro ⟨⟨front', rest'⟩, hread, heq⟩
    obtain ⟨rfl, rfl⟩ := Prod.mk.inj heq
    exact ⟨front', hread, rfl⟩
  · rintro ⟨front', hread, rfl⟩
    exact ⟨_, hread, rfl⟩

theorem before?_eq_some {mark bs front rest : Bytes} (hmark : mark ≠ [])
    (h : before? mark bs = some (front, rest)) :
    bs = front ++ (mark ++ rest) ∧
      ∀ more, before? mark (front ++ (mark ++ more)) = some (front, more) := by
  induction bs generalizing front with
  | nil => cases h
  | cons b bs ih =>
      rw [before?] at h
      split at h
      · next hprefix =>
          obtain ⟨rfl, rfl⟩ := Prod.mk.inj (Option.some.inj h)
          obtain ⟨after, hafter⟩ := List.isPrefixOf_iff_prefix.mp hprefix
          refine ⟨by rw [← hafter, List.drop_left]; rfl, fun more => ?_⟩
          obtain ⟨m, ms, rfl⟩ := List.exists_cons_of_ne_nil hmark
          have hstarts : (m :: ms).isPrefixOf (m :: (ms ++ more)) = true :=
            List.isPrefixOf_iff_prefix.mpr (List.prefix_append (m :: ms) more)
          rw [List.nil_append, List.cons_append, before?, if_pos hstarts, ← List.cons_append,
            List.drop_left]
      · next hprefix =>
          obtain ⟨front, hread, rfl⟩ := map_cons_eq_some.mp h
          obtain ⟨rfl, hmore⟩ := ih hread
          refine ⟨rfl, fun more => ?_⟩
          -- the mark does not start earlier, whatever stands behind its own end
          have hlong : mark.length ≤ (b :: (front ++ mark)).length := by
            simp only [List.length_cons, List.length_append]
            omega
          have hsame := isPrefixOf_append_congr hlong rest more
          simp only [List.cons_append, List.append_assoc] at hsame
          rw [hsame] at hprefix
          rw [List.cons_append, before?, if_neg hprefix]
          exact map_cons_eq_some.mpr ⟨front, hmore more, rfl⟩

theorem strip?_eq_some {mark bs rest : Bytes} (h : strip? mark bs = some rest) :
    bs = mark ++ rest := by
  unfold strip? at h
  split at h
  · next hprefix =>
      obtain rfl := Option.some.inj h
      obtain ⟨after, rfl⟩ := List.isPrefixOf_iff_prefix.mp hprefix
      rw [List.drop_left]
  · cases h

theorem strip?_append (mark rest : Bytes) : strip? mark (mark ++ rest) = some rest := by
  have hprefix : mark.isPrefixOf (mark ++ rest) = true :=
    List.isPrefixOf_iff_prefix.mpr (List.prefix_append mark rest)
  rw [strip?, if_pos hprefix, List.drop_left]

theorem tag?_eq_some {quote : Option UInt8} {bs inside rest : Bytes}
    (h : tag? quote bs = some (inside, rest)) :
    bs = inside ++ greaterThan :: rest ∧
      ∀ more, tag? quote (inside ++ greaterThan :: more) = some (inside, more) := by
  induction bs generalizing quote inside with
  | nil => simp [tag?] at h
  | cons b bs ih =>
      cases quote with
      | none =>
          rw [tag?] at h
          split at h
          · next hb =>
              obtain ⟨rfl, rfl⟩ := Prod.mk.inj (Option.some.inj h)
              exact ⟨by rw [hb]; rfl, fun more => rfl⟩
          · next hb =>
              obtain ⟨inside, hread, rfl⟩ := map_cons_eq_some.mp h
              obtain ⟨rfl, hmore⟩ := ih hread
              refine ⟨rfl, fun more => ?_⟩
              rw [List.cons_append, tag?, if_neg hb]
              exact map_cons_eq_some.mpr ⟨inside, hmore more, rfl⟩
      | some q =>
          obtain ⟨inside, hread, rfl⟩ := map_cons_eq_some.mp h
          obtain ⟨rfl, hmore⟩ := ih hread
          exact ⟨rfl, fun more => map_cons_eq_some.mpr ⟨inside, hmore more, rfl⟩⟩

theorem balanced?_eq_some {depth : Nat} {bs inside rest : Bytes}
    (h : balanced? depth bs = some (inside, rest)) :
    bs = inside ++ greaterThan :: rest ∧
      ∀ more, balanced? depth (inside ++ greaterThan :: more) = some (inside, more) := by
  induction bs generalizing depth inside with
  | nil => simp [balanced?] at h
  | cons b bs ih =>
      unfold balanced? at h
      split at h
      · next hb =>
          cases depth with
          | zero =>
              obtain ⟨rfl, rfl⟩ := Prod.mk.inj (Option.some.inj h)
              exact ⟨by rw [hb]; rfl, fun more => rfl⟩
          | succ depth =>
              obtain ⟨inside, hread, rfl⟩ := map_cons_eq_some.mp h
              obtain ⟨rfl, hmore⟩ := ih hread
              refine ⟨rfl, fun more => ?_⟩
              rw [List.cons_append]
              unfold balanced?
              rw [if_pos hb]
              exact map_cons_eq_some.mpr ⟨inside, hmore more, rfl⟩
      · next hb =>
          obtain ⟨inside, hread, rfl⟩ := map_cons_eq_some.mp h
          obtain ⟨rfl, hmore⟩ := ih hread
          refine ⟨rfl, fun more => ?_⟩
          rw [List.cons_append]
          unfold balanced?
          rw [if_neg hb]
          exact map_cons_eq_some.mpr ⟨inside, hmore more, rfl⟩

/-! ## Tokens -/

/-- A reader takes all up to a mark and makes a token of it, the same whatever
follows. -/
def UpTo (mark : UInt8) (read : Bytes → Option (Token × Bytes)) (token : Token)
    (bs rest : Bytes) : Prop :=
  ∃ front, bs = front ++ mark :: rest ∧ ∀ more, read (front ++ mark :: more) = some (token, more)

theorem reference?_eq_some {bs rest : Bytes} {token : Token}
    (h : reference? bs = some (token, rest)) : UpTo semicolon reference? token bs rest := by
  unfold reference? at h
  split at h
  · cases h
  · next b after hdrop =>
      split at h
      · next hb =>
          obtain ⟨rfl, rfl⟩ := Prod.mk.inj (Option.some.inj h)
          have hname : ∀ b ∈ bs.takeWhile isReferenceByte, isReferenceByte b = true :=
            fun b hb => List.mem_takeWhile_imp hb
          have hmark (more : Bytes) :
              ∀ b ∈ (semicolon :: more).head?, isReferenceByte b = false := by
            intro b hb
            obtain rfl := Option.some.inj hb
            rfl
          refine ⟨bs.takeWhile isReferenceByte, ?_, fun more => ?_⟩
          · rw [← hb, ← hdrop, List.takeWhile_append_dropWhile]
          · rw [reference?, takeWhile_run hname (hmark more), dropWhile_run hname (hmark more)]
            exact if_pos rfl
      · cases h

def section? (opening ending : Bytes) (token : Bytes → Token) (bs : Bytes) :
    Option (Token × Bytes) := do
  let rest ← strip? opening bs
  let (raw, rest) ← before? ending rest
  return (token raw, rest)

theorem section?_eq_some {opening ending bs rest : Bytes} {mark : UInt8} {token : Bytes → Token}
    {t : Token} (h : section? opening (ending ++ [mark]) token bs = some (t, rest)) :
    ∃ inside, bs = opening ++ (inside ++ mark :: rest) ∧
      ∀ more, section? opening (ending ++ [mark]) token (opening ++ (inside ++ mark :: more)) =
        some (t, more) := by
  have hmark : ending ++ [mark] ≠ [] := List.append_ne_nil_of_right_ne_nil _ (List.cons_ne_nil _ _)
  simp only [section?, Option.bind_eq_bind, Option.bind_eq_some_iff, Option.pure_def,
    Option.some.injEq, Prod.exists, Prod.mk.injEq] at h
  obtain ⟨after, hstrip, raw, rest', hread, rfl, rfl⟩ := h
  obtain ⟨rfl, hmore⟩ := before?_eq_some hmark hread
  have hsplit (more : Bytes) : raw ++ (ending ++ [mark] ++ more) =
      raw ++ ending ++ mark :: more := by simp
  refine ⟨raw ++ ending, by rw [← hsplit, ← strip?_eq_some hstrip], fun more => ?_⟩
  rw [← hsplit, section?, strip?_append, Option.bind_eq_bind, Option.bind_some, hmore]
  rfl

/-- The first byte of what goes up to a mark does not depend on what follows. -/
theorem head?_upTo (front : Bytes) (mark : UInt8) (rest more : Bytes) :
    (front ++ mark :: rest).head? = (front ++ mark :: more).head? := by
  cases front <;> rfl

theorem exists_cons_upTo {front rest tail : Bytes} {mark b : UInt8}
    (h : front ++ mark :: rest = b :: tail) (more : Bytes) :
    ∃ tail', front ++ mark :: more = b :: tail' := by
  have hhead := head?_upTo front mark rest more
  rw [h] at hhead
  exact List.head?_eq_some_iff.mp hhead.symm

theorem declaration?_eq_some {bs rest : Bytes} {token : Token}
    (h : declaration? bs = some (token, rest)) : UpTo greaterThan declaration? token bs rest := by
  unfold declaration? at h
  split at h
  · -- character data
    have hsection : section? (Utf8.encode "[CDATA[") ([0x5D, 0x5D] ++ [greaterThan]) .text _ =
      some (token, rest) := h
    obtain ⟨inside, hbs, hmore⟩ := section?_eq_some hsection
    refine ⟨Utf8.encode "[CDATA[" ++ inside, by rw [hbs, List.append_assoc], fun more => ?_⟩
    rw [List.append_assoc]
    exact hmore more
  · -- a comment
    have hsection : section? (Utf8.encode "--") ([0x2D, 0x2D] ++ [greaterThan])
      (fun _ => .aside) _ = some (token, rest) := h
    obtain ⟨inside, hbs, hmore⟩ := section?_eq_some hsection
    refine ⟨Utf8.encode "--" ++ inside, by rw [hbs, List.append_assoc], fun more => ?_⟩
    rw [List.append_assoc]
    exact hmore more
  · next hdata hcomment =>
      -- a document type
      obtain ⟨⟨inside, rest'⟩, hread, htoken⟩ := Option.bind_eq_some_iff.mp h
      obtain ⟨rfl, hmore⟩ := balanced?_eq_some hread
      dsimp only at htoken
      split at htoken
      · next hnamed =>
          obtain ⟨rfl, rfl⟩ := Prod.mk.inj (Option.some.inj htoken)
          refine ⟨inside, rfl, fun more => ?_⟩
          unfold declaration?
          split
          · next heq =>
              obtain ⟨tail, htail⟩ := exists_cons_upTo heq rest'
              exact absurd htail (hdata tail)
          · next heq =>
              obtain ⟨tail, htail⟩ := exists_cons_upTo heq rest'
              exact absurd htail (hcomment tail)
          · rw [hmore]
            exact if_pos hnamed
      · cases htoken

theorem markup?_slash {bs rest : Bytes} {token : Token}
    (h : markup? (slash :: bs) = some (token, rest)) :
    UpTo greaterThan markup? token (slash :: bs) rest := by
  have hnot : slash ≠ exclamationMark := by decide
  rw [markup?, if_neg hnot, if_pos rfl] at h
  obtain ⟨⟨inside, rest'⟩, hread, htoken⟩ := Option.bind_eq_some_iff.mp h
  obtain ⟨rfl, rfl⟩ := Prod.mk.inj (Option.some.inj htoken)
  obtain ⟨rfl, hmore⟩ := tag?_eq_some hread
  refine ⟨slash :: inside, rfl, fun more => ?_⟩
  rw [List.cons_append, markup?, if_neg hnot, if_pos rfl, hmore]
  rfl

theorem markup?_questionMark {bs rest : Bytes} {token : Token}
    (h : markup? (questionMark :: bs) = some (token, rest)) :
    UpTo greaterThan markup? token (questionMark :: bs) rest := by
  have hending : Utf8.encode "?>" = [questionMark, greaterThan] := rfl
  have hnot : questionMark ≠ exclamationMark := by decide
  have hslash : questionMark ≠ slash := by decide
  rw [markup?, if_neg hnot, if_neg hslash, if_pos rfl, hending] at h
  split at h
  · cases h
  · next hhead =>
      obtain ⟨⟨raw, rest'⟩, hread, htoken⟩ := Option.bind_eq_some_iff.mp h
      obtain ⟨rfl, rfl⟩ := Prod.mk.inj (Option.some.inj htoken)
      obtain ⟨rfl, hmore⟩ := before?_eq_some (List.cons_ne_nil _ _) hread
      have hsplit (more : Bytes) : questionMark :: (raw ++ [questionMark]) ++ greaterThan :: more =
          questionMark :: (raw ++ ([questionMark, greaterThan] ++ more)) := by simp
      refine ⟨questionMark :: (raw ++ [questionMark]), (hsplit rest').symm, fun more => ?_⟩
      have hsame := head?_upTo raw questionMark (greaterThan :: rest') (greaterThan :: more)
      rw [hsplit, markup?, if_neg hnot, if_neg hslash, if_pos rfl, if_neg (hsame ▸ hhead), hending,
        hmore]
      rfl

theorem markup?_other {b : UInt8} {bs rest : Bytes} {token : Token} (hb : b ≠ exclamationMark)
    (hslash : b ≠ slash) (hquestion : b ≠ questionMark)
    (h : markup? (b :: bs) = some (token, rest)) :
    UpTo greaterThan markup? token (b :: bs) rest := by
  rw [markup?, if_neg hb, if_neg hslash, if_neg hquestion] at h
  obtain ⟨⟨inside, rest'⟩, hread, htoken⟩ := Option.bind_eq_some_iff.mp h
  obtain ⟨hbs, hmore⟩ := tag?_eq_some hread
  have hmarkup (more : Bytes) : markup? (inside ++ greaterThan :: more) =
      if inside.getLast? = some slash then some (.selfClosing inside.dropLast, more)
      else some (.opening inside, more) := by
    obtain ⟨tail, htail⟩ := exists_cons_upTo hbs.symm more
    rw [htail, markup?, if_neg hb, if_neg hslash, if_neg hquestion, ← htail, hmore]
    rfl
  dsimp only at htoken
  split at htoken
  · next hself =>
      obtain ⟨rfl, rfl⟩ := Prod.mk.inj (Option.some.inj htoken)
      exact ⟨inside, hbs, fun more => (hmarkup more).trans (if_pos hself)⟩
  · next hself =>
      obtain ⟨rfl, rfl⟩ := Prod.mk.inj (Option.some.inj htoken)
      exact ⟨inside, hbs, fun more => (hmarkup more).trans (if_neg hself)⟩

theorem markup?_eq_some {bs rest : Bytes} {token : Token} (h : markup? bs = some (token, rest)) :
    UpTo greaterThan markup? token bs rest := by
  cases bs with
  | nil => cases h
  | cons b bs =>
      by_cases hb : b = exclamationMark
      · rw [markup?, if_pos hb] at h
        obtain ⟨front, rfl, hmore⟩ := declaration?_eq_some h
        refine ⟨b :: front, rfl, fun more => ?_⟩
        rw [List.cons_append, markup?, if_pos hb]
        exact hmore more
      by_cases hslash : b = slash
      · subst hslash
        exact markup?_slash h
      by_cases hquestion : b = questionMark
      · subst hquestion
        exact markup?_questionMark h
      · exact markup?_other hb hslash hquestion h

def isMark (b : UInt8) : Bool := b == greaterThan || b == semicolon

/-- A token is a run of text, or goes up to a mark. -/
theorem next?_eq_some {bs rest : Bytes} {token : Token} (h : Token.next? bs = some (token, rest)) :
    (∃ b raw, token = .text (b :: raw) ∧ bs = b :: (raw ++ rest) ∧
      (∀ d ∈ b :: raw, isTextByte d = true) ∧ ∀ d ∈ rest.head?, isTextByte d = false) ∨
    ∃ mark, isMark mark = true ∧ UpTo mark Token.next? token bs rest := by
  cases bs with
  | nil => cases h
  | cons b bs =>
      rw [Token.next?] at h
      split at h
      · next hb =>
          obtain ⟨front, rfl, hmore⟩ := markup?_eq_some h
          refine .inr ⟨greaterThan, rfl, b :: front, rfl, fun more => ?_⟩
          rw [List.cons_append, Token.next?, if_pos hb]
          exact hmore more
      split at h
      · next hb hamp =>
          obtain ⟨front, rfl, hmore⟩ := reference?_eq_some h
          refine .inr ⟨semicolon, rfl, b :: front, rfl, fun more => ?_⟩
          rw [List.cons_append, Token.next?, if_neg hb, if_pos hamp]
          exact hmore more
      · next hb hamp =>
          obtain ⟨rfl, rfl⟩ := Prod.mk.inj (Option.some.inj h)
          have hfirst : isTextByte b = true := by
            rw [isTextByte, Bool.and_eq_true, bne_iff_ne, bne_iff_ne]
            exact ⟨hb, hamp⟩
          refine .inl ⟨b, bs.takeWhile isTextByte, rfl, ?_, ?_, fun d hd => ?_⟩
          · rw [List.takeWhile_append_dropWhile]
          · exact List.forall_mem_cons.mpr ⟨hfirst, fun d hd => List.mem_takeWhile_imp hd⟩
          · have hhead := List.head?_dropWhile_not isTextByte bs
            rw [Option.mem_def.mp hd] at hhead
            simpa using hhead

/-- **A token is the same if what follows it begins in the same way**, up to a mark. -/
theorem next?_upTo {bs front rest : Bytes} {mark : UInt8} {token : Token}
    (h : Token.next? bs = some (token, front ++ mark :: rest)) :
    ∃ front', bs = front' ++ mark :: rest ∧
      ∀ more, Token.next? (front' ++ mark :: more) = some (token, front ++ mark :: more) := by
  rcases next?_eq_some h with ⟨b, raw, rfl, rfl, hraw, hrest⟩ | ⟨mark', -, before, rfl, hmore⟩
  · refine ⟨b :: (raw ++ front), by simp, fun more => ?_⟩
    rw [head?_upTo front mark rest more] at hrest
    obtain ⟨hb, hraw⟩ := List.forall_mem_cons.mp hraw
    rw [isTextByte, Bool.and_eq_true, bne_iff_ne, bne_iff_ne] at hb
    rw [List.cons_append, List.append_assoc, Token.next?, if_neg hb.1, if_neg hb.2,
      takeWhile_run hraw hrest, dropWhile_run hraw hrest]
  · refine ⟨before ++ mark' :: front, by simp, fun more => ?_⟩
    rw [List.append_assoc, List.cons_append]
    exact hmore _

/-! ## The root -/

/-- What follows the root of a document, from inside of open elements of these
names, the innermost first. Outside of all elements the root is still to come. -/
def afterRoot? (opened : List Bytes) (bs : Bytes) : Option Bytes :=
  match h : Token.next? bs with
  | none => none
  | some (token, rest) =>
    have : rest.length < bs.length := Token.length_next?_lt h
    match token with
    | .opening inside => afterRoot? ((Tag.ofInside inside).name :: opened) rest
    | .selfClosing _ => if opened = [] then some rest else afterRoot? opened rest
    | .closing name =>
      match opened with
      | [] => none
      | expected :: outer =>
        if name = expected then (if outer = [] then some rest else afterRoot? outer rest)
        else none
    | _ => afterRoot? opened rest
termination_by bs.length

/-- The next token decides how the root goes on. -/
theorem afterRoot?_of_next {opened : List Bytes} {bs rest : Bytes} {token : Token}
    (h : Token.next? bs = some (token, rest)) :
    afterRoot? opened bs =
      match token with
      | .opening inside => afterRoot? ((Tag.ofInside inside).name :: opened) rest
      | .selfClosing _ => if opened = [] then some rest else afterRoot? opened rest
      | .closing name =>
        match opened with
        | [] => none
        | expected :: outer =>
          if name = expected then (if outer = [] then some rest else afterRoot? outer rest)
          else none
      | _ => afterRoot? opened rest := by
  rw [afterRoot?]
  split
  · next hnone =>
      rw [h] at hnone
      cases hnone
  · next hsome =>
      rw [h] at hsome
      obtain ⟨rfl, rfl⟩ := Prod.mk.inj (Option.some.inj hsome)
      rfl

/-- The root goes up to a mark, and ends there whatever follows. -/
def RootUpTo (opened : List Bytes) (bs rest : Bytes) : Prop :=
  ∃ front mark, isMark mark = true ∧ bs = front ++ mark :: rest ∧
    ∀ more, afterRoot? opened (front ++ mark :: more) = some more

theorem RootUpTo.of_next {opened opened' : List Bytes} {bs after rest : Bytes} {token : Token}
    (h : RootUpTo opened' after rest) (hnext : Token.next? bs = some (token, after))
    (hsame : ∀ bs after, Token.next? bs = some (token, after) →
      afterRoot? opened bs = afterRoot? opened' after) : RootUpTo opened bs rest := by
  obtain ⟨front, mark, hmark, rfl, hmore⟩ := h
  obtain ⟨front', rfl, hmore'⟩ := next?_upTo hnext
  refine ⟨front', mark, hmark, rfl, fun more => ?_⟩
  rw [hsame _ _ (hmore' more), hmore]

theorem RootUpTo.of_end {opened : List Bytes} {bs rest : Bytes} {token : Token}
    (hnext : Token.next? bs = some (token, rest)) (htoken : ∀ raw, token ≠ .text raw)
    (hends : ∀ bs after, Token.next? bs = some (token, after) →
      afterRoot? opened bs = some after) : RootUpTo opened bs rest := by
  rcases next?_eq_some hnext with ⟨b, raw, rfl, -⟩ | ⟨mark, hmark, front, rfl, hmore⟩
  · exact absurd rfl (htoken _)
  · exact ⟨front, mark, hmark, rfl, fun more => hends _ _ (hmore more)⟩

theorem afterRoot?_eq_some {opened : List Bytes} {bs rest : Bytes}
    (h : afterRoot? opened bs = some rest) : RootUpTo opened bs rest := by
  fun_induction afterRoot? opened bs with
  | case1 => cases h
  | case2 opened bs after inside _ hnext _ ih =>
      exact (ih h).of_next hnext fun _ _ hread => afterRoot?_of_next hread
  | case3 bs after inside _ hnext =>
      obtain rfl := Option.some.inj h
      exact .of_end hnext (fun raw heq => nomatch heq) fun _ _ hread => afterRoot?_of_next hread
  | case4 opened bs after inside _ hopened hnext _ ih =>
      refine (ih h).of_next hnext fun _ _ hread => ?_
      rw [afterRoot?_of_next hread]
      exact if_neg hopened
  | case5 => cases h
  | case6 bs after name _ hnext =>
      obtain rfl := Option.some.inj h
      refine .of_end hnext (fun raw heq => nomatch heq) fun _ _ hread => ?_
      rw [afterRoot?_of_next hread]
      exact if_pos rfl
  | case7 bs after name outer houter _ hnext _ ih =>
      refine (ih h).of_next hnext fun _ _ hread => ?_
      rw [afterRoot?_of_next hread]
      exact (if_pos rfl).trans (if_neg houter)
  | case8 => cases h
  | case9 opened bs token after _ _ hnext hopening hself hclosing ih =>
      refine (ih h).of_next hnext fun _ _ hread => ?_
      rw [afterRoot?_of_next hread]
      cases token with
      | opening inside => exact absurd HEq.rfl (hopening inside hnext rfl)
      | selfClosing inside => exact absurd HEq.rfl (hself inside hnext rfl)
      | closing name => exact absurd HEq.rfl (hclosing name hnext rfl)
      | text raw => rfl
      | reference name => rfl
      | documentType => rfl
      | aside => rfl

/-- A root that ends with a document ends in nothing that breaks off earlier,
also if bytes that are no marks stand where it does. -/
theorem afterRoot?_truncated {front behind other : Bytes}
    (h : afterRoot? [] (front ++ behind) = some []) (hbehind : behind ≠ [])
    (hother : ∀ b ∈ other, isMark b = false) : afterRoot? [] (front ++ other) = none := by
  cases hroot : afterRoot? [] (front ++ other) with
  | none => rfl
  | some rest =>
      obtain ⟨root, mark, hmark, heq, hmore⟩ := afterRoot?_eq_some hroot
      have hnot : mark ∉ other := by
        intro hmem
        rw [hother mark hmem] at hmark
        cases hmark
      rcases List.append_eq_append_iff.mp heq with ⟨more, -, hrest⟩ | ⟨more, hfront, hrest⟩
      · exact absurd (hrest ▸ by simp) hnot
      · cases more with
        | nil =>
            rw [List.nil_append] at hrest
            exact absurd (hrest ▸ List.mem_cons_self) hnot
        | cons m more =>
            -- the root ends within what both have in common
            obtain ⟨rfl, -⟩ := List.cons.inj hrest
            rw [hfront, List.append_assoc, List.cons_append, hmore] at h
            exact absurd (List.append_eq_nil_iff.mp (Option.some.inj h)).2 hbehind

end ObjectStore.Xml
