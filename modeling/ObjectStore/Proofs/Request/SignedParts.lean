import ObjectStore.Proofs.Request.Resources
import ObjectStore.Proofs.Request.Verifier

/-!
# The parts of a signature

The text that is signed is put together from parts: the verb, two headers, the
date, the headers of the service, the path and the parameters that are signed.
No part can run into the next. A value that is sent has no line end, the line of
a header of the service does not begin as a path does, and a path that arrives
has no question mark. So two signed texts are equal only if all their parts are,
and what is no part has no influence.
-/

namespace ObjectStore

namespace Signature

/-! ## The parts -/

def serviceEntries (op : Operation) : List (String × String) :=
  (op.headers.entries.filter fun h => isServiceHeader h.1).map fun h => (h.1, trimBlank h.2)

def parameterText (op : Operation) : String :=
  "&".intercalate ((signedParameters op).map parameter)

def dateLine (op : Operation) (date : String) : String :=
  if (op.header? "x-amz-date").isSome then "" else date

/-- Operations that are signed alike: each part of the one is the same part
of the other. -/
structure Alike (op op' : Operation) (date date' : String) : Prop where
  verb : op.verb = op'.verb
  digest : (op.header? "content-md5").getD "" = (op'.header? "content-md5").getD ""
  type : (op.header? "content-type").getD "" = (op'.header? "content-type").getD ""
  date : op.header? "x-amz-date" = none → date = date'
  service : ∀ name, isServiceHeader name = true →
    (op.headers.get? name).map trimBlank = (op'.headers.get? name).map trimBlank
  path : op.path = op'.path
  parameters : parameterText op = parameterText op'

/-- An operation whose parts stay apart. -/
structure Separable (op : Operation) : Prop where
  digest : '\n' ∉ ((op.header? "content-md5").getD "").toList
  type : '\n' ∉ ((op.header? "content-type").getD "").toList
  service : ∀ h ∈ serviceEntries op,
    h.1.toList.head? = some 'x' ∧ ':' ∉ h.1.toList ∧ '\n' ∉ h.2.toList
  path : '?' ∉ op.path.toList

/-! ## The text by its parts -/

def line (h : String × String) : List Char := h.1.toList ++ ':' :: (h.2.toList ++ ['\n'])

variable {op op' : Operation} {date date' : String}

theorem toList_serviceHeaders (op : Operation) :
    (serviceHeaders op).toList = (serviceEntries op).flatMap line := by
  have hline (h : String × String) :
      (h.1 ++ ":" ++ trimBlank h.2 ++ "\n").toList = line (h.1, trimBlank h.2) := by
    have hcolon : ":".toList = [':'] := rfl
    have hend : "\n".toList = ['\n'] := rfl
    simp only [String.toList_append, hcolon, hend, line, List.append_assoc,
      List.cons_append, List.nil_append]
  rw [serviceHeaders, String.toList_join, serviceEntries, List.flatMap_map, List.flatMap_map]
  simp only [hline]

theorem toList_path_head (op : Operation) : ∃ cs, op.path.toList = '/' :: cs := by
  unfold Operation.path
  split
  · simp only [String.toList_append, List.append_assoc]
    exact ⟨_, rfl⟩
  · simp only [String.toList_append, List.append_assoc]
    exact ⟨_, rfl⟩
  · exact ⟨[], rfl⟩

theorem name_of_mem_signedParameters {p : String × Option String}
    (h : p ∈ signedParameters op) :
    p.1 ∈ subResources ∧ p.1 ≠ "" ∧ '=' ∉ p.1.toList ∧ '&' ∉ p.1.toList := by
  have hnames : ∀ name ∈ subResources, name ≠ "" ∧ '=' ∉ name.toList ∧ '&' ∉ name.toList := by
    decide
  have hmem : p.1 ∈ subResources := List.contains_iff_mem.mp (List.mem_filter.mp h).2
  exact ⟨hmem, hnames p.1 hmem⟩

theorem toList_parameter (p : String × Option String) :
    (parameter p).toList = p.1.toList ++ p.2.elim [] fun value => '=' :: value.toList := by
  obtain ⟨name, _ | value⟩ := p
  · exact (List.append_nil _).symm
  · simp only [parameter, String.toList_append, List.append_assoc]
    rfl

theorem parameterText_eq_empty : parameterText op = "" ↔ signedParameters op = [] := by
  constructor
  · intro htext
    cases hps : signedParameters op with
    | nil => rfl
    | cons p ps =>
        -- the name of the first parameter opens the text
        have hsep : "&".toList = ['&'] := rfl
        have hchars := congrArg String.toList htext
        rw [parameterText, hps, String.toList_intercalate, hsep, List.map_cons, List.map_cons,
          intercalate_cons, toList_parameter, List.append_assoc] at hchars
        have hname : p.1 = "" := String.toList_inj.mp (List.append_eq_nil_iff.mp hchars).1
        exact absurd hname (name_of_mem_signedParameters (hps ▸ List.mem_cons_self)).2.1
  · intro hnone
    rw [parameterText, hnone]
    rfl

theorem toList_resource (op : Operation) :
    (resource op).toList = op.path.toList ++
      if parameterText op = "" then [] else '?' :: (parameterText op).toList := by
  unfold resource
  dsimp only
  by_cases hnone : signedParameters op = []
  · rw [if_pos (List.map_eq_nil_iff.mpr hnone), if_pos (parameterText_eq_empty.mpr hnone),
      List.append_nil]
  · have hmark : "?".toList = ['?'] := rfl
    rw [if_neg (mt List.map_eq_nil_iff.mp hnone), if_neg (mt parameterText_eq_empty.mp hnone),
      String.toList_append, String.toList_append, hmark, List.append_assoc,
      List.singleton_append, parameterText]

theorem toList_signedText (op : Operation) (date : String) :
    (signedText op date).toList = op.verb.text.toList ++ '\n' ::
      (((op.header? "content-md5").getD "").toList ++ '\n' ::
        (((op.header? "content-type").getD "").toList ++ '\n' ::
          ((dateLine op date).toList ++ '\n' ::
            ((serviceEntries op).flatMap line ++ (resource op).toList)))) := by
  have hend : "\n".toList = ['\n'] := rfl
  rw [← toList_serviceHeaders, ← String.toList_append, signedText, String.toList_intercalate,
    hend]
  simp only [List.map_cons, List.map_nil, List.intercalate_cons_cons,
    List.intercalate_singleton, List.append_assoc, List.singleton_append, dateLine]

/-! ## No part runs into the next -/

/-- The lines of the headers end where a resource begins. -/
theorem lines_append_inj {hs hs' : List (String × String)} {rest rest' : List Char}
    (h : ∀ p ∈ hs, p.1.toList.head? = some 'x' ∧ ':' ∉ p.1.toList ∧ '\n' ∉ p.2.toList)
    (h' : ∀ p ∈ hs', p.1.toList.head? = some 'x' ∧ ':' ∉ p.1.toList ∧ '\n' ∉ p.2.toList)
    (hrest : rest.head? = some '/') (hrest' : rest'.head? = some '/')
    (heq : hs.flatMap line ++ rest = hs'.flatMap line ++ rest') : hs = hs' ∧ rest = rest' := by
  -- a line and a resource differ in their first characters
  have hfirst {p : String × String} {more : List Char} (hp : p.1.toList.head? = some 'x') :
      (line p ++ more).head? = some 'x' := by
    rw [line, List.append_assoc, List.head?_append, hp]
    rfl
  induction hs generalizing hs' with
  | nil =>
      cases hs' with
      | nil => exact ⟨rfl, heq⟩
      | cons q hs' =>
          rw [List.flatMap_nil, List.nil_append, List.flatMap_cons, List.append_assoc] at heq
          rw [heq, hfirst (h' q List.mem_cons_self).1] at hrest
          cases hrest
  | cons p hs ih =>
      obtain ⟨hx, hcolon, hend⟩ := h p List.mem_cons_self
      cases hs' with
      | nil =>
          rw [List.flatMap_nil, List.nil_append, List.flatMap_cons, List.append_assoc] at heq
          rw [← heq, hfirst hx] at hrest'
          cases hrest'
      | cons q hs' =>
          obtain ⟨-, hcolon', hend'⟩ := h' q List.mem_cons_self
          simp only [List.flatMap_cons, line, List.append_assoc, List.cons_append,
            List.nil_append] at heq
          obtain ⟨hname, heq⟩ := (append_cons_inj hcolon hcolon').mp heq
          obtain ⟨hvalue, heq⟩ := (append_cons_inj hend hend').mp heq
          obtain ⟨hhs, hrests⟩ := ih (fun p hp => h p (List.mem_cons_of_mem _ hp))
            (fun q hq => h' q (List.mem_cons_of_mem _ hq)) heq
          have hpq : p = q := Prod.ext (String.toList_inj.mp hname) (String.toList_inj.mp hvalue)
          exact ⟨by rw [hpq, hhs], hrests⟩

/-- A question mark ends the path in a resource. -/
theorem resource_inj (h : '?' ∉ op.path.toList) (h' : '?' ∉ op'.path.toList)
    (heq : (resource op).toList = (resource op').toList) :
    op.path = op'.path ∧ parameterText op = parameterText op' := by
  rw [toList_resource, toList_resource] at heq
  split_ifs at heq with hnone hnone' hnone'
  · rw [List.append_nil, List.append_nil] at heq
    exact ⟨String.toList_inj.mp heq, hnone.trans hnone'.symm⟩
  · rw [List.append_nil] at heq
    exact absurd (heq ▸ List.mem_append_right _ List.mem_cons_self) h
  · rw [List.append_nil] at heq
    exact absurd (heq ▸ List.mem_append_right _ List.mem_cons_self) h'
  · obtain ⟨hpath, htext⟩ := (append_cons_inj h h').mp heq
    exact ⟨String.toList_inj.mp hpath, String.toList_inj.mp htext⟩

theorem serviceEntries_eq_iff : serviceEntries op = serviceEntries op' ↔
    ∀ name, isServiceHeader name = true →
      (op.headers.get? name).map trimBlank = (op'.headers.get? name).map trimBlank :=
  SortedMap.filter_map_eq_iff

theorem header?_date (op : Operation) : op.header? "x-amz-date" = op.headers.get? "x-amz-date" := by
  rw [Operation.header?, show Header.lowerCase "x-amz-date" = "x-amz-date" by decide]

theorem dateLine_eq_iff (hservice : serviceEntries op = serviceEntries op') :
    dateLine op date = dateLine op' date' ↔ (op.header? "x-amz-date" = none → date = date') := by
  have hsome : (op.header? "x-amz-date").isSome = (op'.header? "x-amz-date").isSome := by
    have hget := serviceEntries_eq_iff.mp hservice "x-amz-date" (by decide)
    rw [header?_date, header?_date, ← Option.isSome_map (f := trimBlank), hget,
      Option.isSome_map]
  unfold dateLine
  rw [← hsome]
  cases op.header? "x-amz-date" with
  | none => exact ⟨fun heq _ => heq, fun heq => heq rfl⟩
  | some value => exact ⟨fun _ hnone => (nomatch hnone), fun _ => rfl⟩

/-- Equal parts give equal texts. -/
theorem Alike.signedText_eq (h : Alike op op' date date') :
    signedText op date = signedText op' date' := by
  have hservice := serviceEntries_eq_iff.mpr h.service
  have hline : dateLine op date = dateLine op' date' := (dateLine_eq_iff hservice).mpr h.date
  have hresource : (resource op).toList = (resource op').toList := by
    rw [toList_resource, toList_resource, h.path, h.parameters]
  rw [← String.toList_inj, toList_signedText, toList_signedText, h.verb, h.digest, h.type, hline,
    hservice, hresource]

/-- Equal texts have equal parts. -/
theorem alike_of_signedText_eq (hop : Separable op) (hop' : Separable op')
    (hdate : '\n' ∉ date.toList) (hdate' : '\n' ∉ date'.toList)
    (heq : signedText op date = signedText op' date') : Alike op op' date date' := by
  have hverb (v : Verb) : '\n' ∉ v.text.toList := by cases v <;> decide
  have hline {op : Operation} {date : String} (hdate : '\n' ∉ date.toList) :
      '\n' ∉ (dateLine op date).toList := by
    unfold dateLine
    split
    · exact List.not_mem_nil
    · exact hdate
  have hslash (op : Operation) : (resource op).toList.head? = some '/' := by
    obtain ⟨cs, hcs⟩ := toList_path_head op
    rw [toList_resource, hcs]
    rfl
  rw [← String.toList_inj, toList_signedText, toList_signedText] at heq
  -- four lines are read off the front, then the headers of the service
  obtain ⟨hv, heq⟩ := (append_cons_inj (hverb _) (hverb _)).mp heq
  obtain ⟨hd, heq⟩ := (append_cons_inj hop.digest hop'.digest).mp heq
  obtain ⟨ht, heq⟩ := (append_cons_inj hop.type hop'.type).mp heq
  obtain ⟨hl, heq⟩ := (append_cons_inj (hline hdate) (hline hdate')).mp heq
  obtain ⟨hs, heq⟩ := lines_append_inj hop.service hop'.service (hslash op) (hslash op') heq
  obtain ⟨hpath, htext⟩ := resource_inj hop.path hop'.path heq
  exact {
    verb := Verb.text_injective (String.toList_inj.mp hv)
    digest := String.toList_inj.mp hd
    type := String.toList_inj.mp ht
    date := (dateLine_eq_iff hs).mp (String.toList_inj.mp hl)
    service := serviceEntries_eq_iff.mp hs
    path := hpath
    parameters := htext }

/-! ## The parameters by themselves -/

/-- No value of a parameter that is signed holds the character between two
parameters. -/
def NoAmpersand (op : Operation) : Prop :=
  ∀ p ∈ signedParameters op, ∀ value, p.2 = some value → '&' ∉ value.toList

theorem parameter_injective {p q : String × Option String} (hp : '=' ∉ p.1.toList)
    (hq : '=' ∉ q.1.toList) (heq : parameter p = parameter q) : p = q := by
  rw [← String.toList_inj, toList_parameter, toList_parameter] at heq
  obtain ⟨name, _ | value⟩ := p
  · obtain ⟨name', _ | value'⟩ := q
    · obtain rfl := String.toList_inj.mp (List.append_cancel_right heq)
      rfl
    · rw [Option.elim_none, List.append_nil] at heq
      exact absurd (heq ▸ List.mem_append_right _ List.mem_cons_self) hp
  · obtain ⟨name', _ | value'⟩ := q
    · rw [Option.elim_none, List.append_nil] at heq
      exact absurd (heq ▸ List.mem_append_right _ List.mem_cons_self) hq
    · obtain ⟨hname, hvalue⟩ := (append_cons_inj hp hq).mp heq
      obtain rfl := String.toList_inj.mp hname
      obtain rfl := String.toList_inj.mp hvalue
      rfl

theorem parameters_injective {ps qs : List (String × Option String)}
    (hps : ∀ p ∈ ps, '=' ∉ p.1.toList) (hqs : ∀ q ∈ qs, '=' ∉ q.1.toList)
    (heq : ps.map (fun p => (parameter p).toList) = qs.map fun q => (parameter q).toList) :
    ps = qs := by
  induction ps generalizing qs with
  | nil => exact (List.map_eq_nil_iff.mp heq.symm).symm
  | cons p ps ih =>
      cases qs with
      | nil => cases heq
      | cons q qs =>
          obtain ⟨hhead, htail⟩ := List.cons.inj heq
          have hpq : p = q := parameter_injective (hps p List.mem_cons_self)
            (hqs q List.mem_cons_self) (String.toList_inj.mp hhead)
          have hrest : ps = qs := ih (fun p hp => hps p (List.mem_cons_of_mem _ hp))
            (fun q hq => hqs q (List.mem_cons_of_mem _ hq)) htail
          rw [hpq, hrest]

theorem splitWhere_parameterText (h : NoAmpersand op) (hne : signedParameters op ≠ []) :
    splitWhere (· == '&') (parameterText op).toList =
      (signedParameters op).map fun p => (parameter p).toList := by
  have hsep : "&".toList = ['&'] := rfl
  rw [parameterText, String.toList_intercalate, hsep, List.map_map]
  refine splitWhere_intercalate (by decide) (mt List.map_eq_nil_iff.mp hne) ?_
  intro part hpart c hc
  obtain ⟨p, hp, rfl⟩ := List.mem_map.mp hpart
  rw [Function.comp_apply, toList_parameter] at hc
  rw [beq_eq_false_iff_ne]
  rintro rfl
  rcases List.mem_append.mp hc with hc | hc
  · exact (name_of_mem_signedParameters hp).2.2.2 hc
  · cases hvalue : p.2 with
    | none =>
        rw [hvalue] at hc
        cases hc
    | some value =>
        rw [hvalue] at hc
        rcases List.mem_cons.mp hc with hc | hc
        · exact absurd hc (by decide)
        · exact h p hp value hvalue hc

theorem parameterText_eq_iff (h : NoAmpersand op) (h' : NoAmpersand op') :
    parameterText op = parameterText op' ↔
      ∀ name ∈ subResources, op.query.get? name = op'.query.get? name := by
  have hparameters : parameterText op = parameterText op' ↔
      signedParameters op = signedParameters op' := by
    constructor
    · intro htext
      by_cases hnone : signedParameters op = []
      · rw [hnone, eq_comm, ← parameterText_eq_empty, ← htext, parameterText_eq_empty, hnone]
      have hsome : signedParameters op' ≠ [] := by
        rw [Ne, ← parameterText_eq_empty, ← htext, parameterText_eq_empty]
        exact hnone
      have hsplit := splitWhere_parameterText h hnone
      rw [htext, splitWhere_parameterText h' hsome] at hsplit
      exact parameters_injective (fun p hp => (name_of_mem_signedParameters hp).2.2.1)
        (fun q hq => (name_of_mem_signedParameters hq).2.2.1) hsplit.symm
    · intro heq
      rw [parameterText, parameterText, heq]
  rw [hparameters]
  have hread := @SortedMap.filter_map_eq_iff _ _ subResources.contains id op.query op'.query
  simp only [id_eq, List.map_id', Option.map_id, List.contains_iff_mem] at hread
  exact hread

/-! ## What has no influence -/

/-- A header that is neither of the two nor one of the service is no part. -/
theorem alike_withHeader {name : String} (hdigest : Header.lowerCase name ≠ "content-md5")
    (htype : Header.lowerCase name ≠ "content-type")
    (hservice : isServiceHeader (Header.lowerCase name) = false) (value : String) :
    Alike (op.withHeader name value) op date date := by
  have hget {other : String} (hne : other ≠ Header.lowerCase name) :
      (op.withHeader name value).headers.get? other = op.headers.get? other := by
    rw [Operation.withHeader, SortedMap.get?_insert, if_neg hne]
  have hother : ∀ other, isServiceHeader other = true → other ≠ Header.lowerCase name := by
    rintro other hother rfl
    rw [hservice] at hother
    cases hother
  have hlower : Header.lowerCase "content-md5" = "content-md5" ∧
      Header.lowerCase "content-type" = "content-type" := by decide
  exact {
    verb := rfl
    digest := by
      rw [Operation.header?, Operation.header?, hlower.1, hget hdigest.symm]
    type := by
      rw [Operation.header?, Operation.header?, hlower.2, hget htype.symm]
    date := fun _ => rfl
    service := fun other hserviceHeader => by rw [hget (hother other hserviceHeader)]
    path := rfl
    parameters := rfl }

/-- A parameter that makes no other resource is no part. -/
theorem alike_setParameter {name : String} (h : name ∉ subResources) (value : Option String) :
    Alike { op with query := op.query.insert name value } op date date := by
  have hps : signedParameters { op with query := op.query.insert name value } =
      signedParameters op :=
    SortedMap.filter_insert op.query (by rw [List.contains_eq_mem, decide_eq_false h]) value
  exact {
    verb := rfl
    digest := rfl
    type := rfl
    date := fun _ => rfl
    service := fun _ _ => rfl
    path := rfl
    parameters := by rw [parameterText, parameterText, hps] }

end Signature

/-! ## Operations that are sent -/

namespace Client

open Signature

variable {c c' : Client} {op op' : Operation} {now now' : Instant} {r r' : Request}

theorem not_mem_of_isValue {value : String}
    (h : (Utf8.encode value).all Header.isValueByte = true) : '\n' ∉ value.toList := by
  intro hmem
  have hbyte : (0x0A : UInt8) ∈ Utf8.encode value := by
    refine List.mem_flatMap.mpr ⟨'\n', hmem, ?_⟩
    decide
  have hvalue := List.all_eq_true.mp h _ hbyte
  exact absurd hvalue (by decide)

/-- The parts of an operation that is sent stay apart. -/
theorem separable_of_prepare (hop : op.Built) (hc : c.endpoint.IsWeb)
    (h : c.prepare op now = .ok r) : Separable op := by
  have hheader {name : String} (hlower : Header.lowerCase name = name)
      (hkept : Header.isAdded name = false) : '\n' ∉ ((op.header? name).getD "").toList := by
    rw [Operation.header?, hlower]
    cases hget : op.headers.get? name with
    | none => exact List.not_mem_nil
    | some value =>
        have hfault := fault?_eq_none_of_prepare hop.lowerCase h hkept hget
        exact not_mem_of_isValue (Header.fault?_eq_none hfault).2
  refine ⟨hheader (by decide) (by decide), hheader (by decide) (by decide), ?_, ?_⟩
  · intro p hp
    obtain ⟨⟨name, value⟩, hmem, rfl⟩ := List.mem_map.mp hp
    obtain ⟨hentry, hservice⟩ := List.mem_filter.mp hmem
    have hkept : Header.isAdded name = false :=
      isAdded_eq_false (fun _ => Verifier.isServiceHeader_of_isAdded) hservice
    obtain ⟨⟨-, htoken, -⟩, hvalue⟩ := Header.fault?_eq_none
      (fault?_eq_none_of_prepare hop.lowerCase h hkept (SortedMap.mem_entries_iff.mp hentry))
    refine ⟨?_, ?_, ?_⟩
    · obtain ⟨rest, hrest⟩ := List.isPrefixOf_iff_prefix.mp hservice
      rw [← hrest]
      rfl
    · intro hcolon
      exact absurd (List.all_eq_true.mp htoken ':' hcolon) (by decide)
    · intro hend
      rw [trimBlank, String.toList_ofList] at hend
      exact not_mem_of_isValue hvalue (mem_of_mem_trimBy hend)
  · obtain ⟨cs, hcs⟩ := toList_path_head op
    rw [← (path_of_prepare h).2]
    exact Url.not_mem_path_withPath hc hcs

theorem not_mem_format (now : Instant) : '\n' ∉ (HttpDate.format now).toList := by
  intro hmem
  have hplain := List.all_eq_true.mp (plain_format now) _ hmem
  exact absurd hplain (by decide)

/-- **A signature covers its parts, and nothing else.** The texts that are signed
of two operations that are sent are equal just if the operations are alike in
each part; and where no value holds a `&`, they are alike in their parameters if
each of those that are signed is the same in both. Then their signatures are the
same, whoever signs. Any other header and any other parameter leaves the
signature as it is. -/
theorem signature_covers_parts (hop : op.Built) (hop' : op'.Built) (hc : c.endpoint.IsWeb)
    (hc' : c'.endpoint.IsWeb) (h : c.prepare op now = .ok r) (h' : c'.prepare op' now' = .ok r') :
    (signedText op (HttpDate.format now) = signedText op' (HttpDate.format now') ↔
        Alike op op' (HttpDate.format now) (HttpDate.format now')) ∧
      (NoAmpersand op → NoAmpersand op' → (parameterText op = parameterText op' ↔
        ∀ name ∈ subResources, op.query.get? name = op'.query.get? name)) ∧
      (Alike op op' (HttpDate.format now) (HttpDate.format now') →
        ∀ who, authorization who op now = authorization who op' now') ∧
      (∀ name value, Header.lowerCase name ≠ "content-md5" →
        Header.lowerCase name ≠ "content-type" →
        isServiceHeader (Header.lowerCase name) = false →
        ∀ who, authorization who (op.withHeader name value) now = authorization who op now) ∧
      ∀ name, name ∉ subResources →
        (∀ value who, authorization who (op.withQuery name value) now =
          authorization who op now) ∧
        ∀ who, authorization who (op.withSubResource name) now = authorization who op now := by
  have hauthorization {op op' : Operation} {now now' : Instant}
      (h : Alike op op' (HttpDate.format now) (HttpDate.format now')) (who : Credentials) :
      authorization who op now = authorization who op' now' := by
    rw [authorization, authorization, h.signedText_eq]
  refine ⟨⟨?_, Alike.signedText_eq⟩, parameterText_eq_iff, hauthorization, ?_, ?_⟩
  · exact alike_of_signedText_eq (separable_of_prepare hop hc h) (separable_of_prepare hop' hc' h')
      (not_mem_format now) (not_mem_format now')
  · intro name value hdigest htype hservice
    exact hauthorization (alike_withHeader hdigest htype hservice value)
  · intro name hname
    exact ⟨fun value => hauthorization (alike_setParameter hname (some value)),
      hauthorization (alike_setParameter hname none)⟩

/-- Access to a note is signed for itself. -/
theorem signature_covers_parts_puttingNote :
    puttingNote.Built ∧ (puttingNote.withSubResource "acl").Built ∧
      (ofLocalService 1024).endpoint.IsWeb ∧
      ∃ r r', (ofLocalService 1024).prepare puttingNote ⟨0⟩ = .ok r ∧
        (ofLocalService 1024).prepare (puttingNote.withSubResource "acl") ⟨0⟩ = .ok r' ∧
        signedText puttingNote (HttpDate.format ⟨0⟩) ≠
          signedText (puttingNote.withSubResource "acl") (HttpDate.format ⟨0⟩) := by
  have hop : puttingNote.Built := .withKey _ (.withBucket _ (.ofVerb _))
  have hop' : (puttingNote.withSubResource "acl").Built := .withSubResource _ hop
  have hweb : (ofLocalService 1024).endpoint.IsWeb := Or.inl rfl
  have hpath : ((ofLocalService 1024).endpoint.withPath puttingNote.path).path =
      puttingNote.path := by decide +kernel
  obtain ⟨r, hr⟩ : ∃ r, (ofLocalService 1024).prepare puttingNote ⟨0⟩ = .ok r :=
    exists_request hop.lowerCase (by decide) (by decide) hpath
  obtain ⟨r', hr'⟩ : ∃ r,
      (ofLocalService 1024).prepare (puttingNote.withSubResource "acl") ⟨0⟩ = .ok r :=
    exists_request hop'.lowerCase (by decide) (by decide) hpath
  obtain ⟨htext, hparameters, -⟩ := signature_covers_parts hop hop' hweb hweb hr hr'
  refine ⟨hop, hop', hweb, r, r', hr, hr', fun heq => ?_⟩
  have hnone : NoAmpersand puttingNote := fun p hp => by cases hp
  have hnone' : NoAmpersand (puttingNote.withSubResource "acl") := by
    intro p hp value hvalue
    obtain rfl : p = ("acl", none) := List.mem_singleton.mp hp
    cases hvalue
  have hacl := (hparameters hnone hnone').mp (htext.mp heq).parameters "acl" (by decide)
  exact absurd hacl (by decide)

end Client
end ObjectStore
