import ServiceStubs.Proofs.Number.Whole
import ServiceStubs.Resolution.Constant

/-!
# Counting through an enum

A member without an initialiser counts on from the nearest one in front of it that has one, or from zero if there is
none. After a text there is nothing to count on from.

* `Denotes` says which number an expression is, and `IsNumeric` which expressions are numbers at all;
* `Lacks` is what can be wrong with a member, and `HasValue` the value of a member where numbers are whole;
* `Counter` is what holds of the running number in front of every member, and `Takes` the value that follows from it;
* `memberValue_cases` is what one member does, and `casesFrom_cases` what all of them do;
* `Takes.hasValue` says that numbers that stay exact are counted one by one;
* `enumCases_counted` puts this together for an enum.
-/

namespace ServiceStubs.Resolution

open Source

/-! ## Expressions for numbers -/

/-- An expression that is a number, with minus signs and parentheses. -/
inductive IsNumeric : Expression → Prop where
  | number (x : Double) : IsNumeric (.number x)
  | negated {inner : Expression} (h : IsNumeric inner) : IsNumeric (.negated inner)
  | parenthesized {inner : Expression} (h : IsNumeric inner) : IsNumeric (.parenthesized inner)

/-- The value of an expression that is a finite number. -/
inductive Denotes : Expression → ℚ → Prop where
  | number {x : Double} {q : ℚ} (h : x.value? = some q) : Denotes (.number x) q
  | negated {inner : Expression} {q : ℚ} (h : Denotes inner q) : Denotes (.negated inner) (-q)
  | parenthesized {inner : Expression} {q : ℚ} (h : Denotes inner q) : Denotes (.parenthesized inner) q

theorem isSome_numericValue?_iff {e : Expression} : (numericValue? e).isSome ↔ IsNumeric e := by
  constructor
  · intro h
    fun_induction numericValue? e with
    | case1 x => exact .number x
    | case2 inner ih => exact .negated (ih (by simpa using h))
    | case3 inner ih => exact .parenthesized (ih h)
    | case4 => cases h
  · intro h
    induction h with
    | number x => rfl
    | negated _ ih => simpa [numericValue?] using ih
    | parenthesized _ ih => exact ih

theorem denotes_iff {e : Expression} {q : ℚ} : Denotes e q ↔ ∃ x, numericValue? e = some x ∧ x.value? = some q := by
  constructor
  · intro h
    induction h with
    | number h => exact ⟨_, rfl, h⟩
    | negated _ ih =>
      obtain ⟨x, hx, hq⟩ := ih
      refine ⟨x.negate, by rw [numericValue?, hx]; rfl, by rw [Double.value?_negate, hq]; rfl⟩
    | parenthesized _ ih => exact ih
  · rintro ⟨x, hx, hq⟩
    fun_induction numericValue? e generalizing x q with
    | case1 y =>
      obtain rfl := Option.some.inj hx
      exact .number hq
    | case2 inner ih =>
      obtain ⟨y, hy, rfl⟩ := Option.map_eq_some_iff.mp hx
      rw [Double.value?_negate] at hq
      obtain ⟨value, hvalue, rfl⟩ := Option.map_eq_some_iff.mp hq
      exact .negated (ih y hy hvalue)
    | case3 inner ih => exact .parenthesized (ih x hx hq)
    | case4 => cases hx

theorem Denotes.unique {e : Expression} {q q' : ℚ} (h : Denotes e q) (h' : Denotes e q') : q = q' := by
  obtain ⟨x, hx, hq⟩ := denotes_iff.mp h
  obtain ⟨y, hy, hq'⟩ := denotes_iff.mp h'
  obtain rfl := Option.some.inj (hx.symm.trans hy)
  exact Option.some.inj (hq.symm.trans hq')

/-! ## Places -/

/-- Of the members in front of place `i` the one at place `j` is the nearest that has an initialiser. -/
structure IsNearest (members : List EnumMember) (i j : ℕ) (initialiser : Expression) : Prop where
  before : j < i
  initialised : ∃ m, members[j]? = some m ∧ m.value = some initialiser
  between : ∀ k m, j < k → k < i → members[k]? = some m → m.value = none

/-- No member in front of place `i` has an initialiser. -/
def NoneBefore (members : List EnumMember) (i : ℕ) : Prop :=
  ∀ k m, k < i → members[k]? = some m → m.value = none

section Places

variable {members : List EnumMember} {i : ℕ} {m : EnumMember}

theorem noneBefore_zero : NoneBefore members 0 :=
  fun k _ hk => absurd hk (Nat.not_lt_zero k)

theorem NoneBefore.succ (h : NoneBefore members i) (hm : members[i]? = some m) (hvalue : m.value = none) :
    NoneBefore members (i + 1) := by
  intro k m' hk hm'
  rcases Nat.lt_succ_iff_lt_or_eq.mp hk with hlt | rfl
  · exact h k m' hlt hm'
  · obtain rfl := Option.some.inj (hm'.symm.trans hm)
    exact hvalue

theorem IsNearest.succ {j : ℕ} {initialiser : Expression} (h : IsNearest members i j initialiser)
    (hm : members[i]? = some m) (hvalue : m.value = none) : IsNearest members (i + 1) j initialiser where
  before := Nat.lt_succ_of_lt h.before
  initialised := h.initialised
  between k m' hjk hk hm' := by
    rcases Nat.lt_succ_iff_lt_or_eq.mp hk with hlt | rfl
    · exact h.between k m' hjk hlt hm'
    · obtain rfl := Option.some.inj (hm'.symm.trans hm)
      exact hvalue

/-- A member with an initialiser is the nearest to the one behind it. -/
theorem isNearest_succ {initialiser : Expression} (hm : members[i]? = some m) (hvalue : m.value = some initialiser) :
    IsNearest members (i + 1) i initialiser where
  before := Nat.lt_succ_self i
  initialised := ⟨m, hm, hvalue⟩
  between k _ hik hk := absurd hk (by omega)

theorem IsNearest.not_noneBefore {j : ℕ} {initialiser : Expression} (h : IsNearest members i j initialiser) :
    ¬ NoneBefore members i := by
  intro hnone
  obtain ⟨m, hm, hvalue⟩ := h.initialised
  rw [hnone j m h.before hm] at hvalue
  cases hvalue

theorem IsNearest.unique {j j' : ℕ} {initialiser initialiser' : Expression} (h : IsNearest members i j initialiser)
    (h' : IsNearest members i j' initialiser') : j = j' ∧ initialiser = initialiser' := by
  obtain ⟨m, hm, hvalue⟩ := h.initialised
  obtain ⟨m', hm', hvalue'⟩ := h'.initialised
  rcases lt_trichotomy j j' with hlt | rfl | hlt
  · rw [h.between j' m' hlt h'.before hm'] at hvalue'
    cases hvalue'
  · obtain rfl := Option.some.inj (hm.symm.trans hm')
    exact ⟨rfl, Option.some.inj (hvalue.symm.trans hvalue')⟩
  · rw [h'.between j m hlt h.before hm] at hvalue
    cases hvalue

end Places

/-! ## Members -/

/-- What is wrong with the member at place `i`, if it has no value. -/
inductive Lacks (e : EnumSyntax) (i : ℕ) : Unsupported → Prop where
  /-- There is no number to count on from. -/
  | uninitialised {m : EnumMember} {j : ℕ} {text : String} (hm : e.members[i]? = some m) (hvalue : m.value = none)
      (hnearest : IsNearest e.members i j (.string text)) : Lacks e i (.uninitialisedMember e.name m.name)
  /-- The initialiser is neither a number nor a text. -/
  | unreadable {m : EnumMember} {initialiser : Expression} (hm : e.members[i]? = some m)
      (hvalue : m.value = some initialiser) (hnumeric : ¬ IsNumeric initialiser)
      (htext : ∀ text, initialiser ≠ .string text) : Lacks e i (.memberValue e.name m.name)

/-- The value of the member `m` at place `i`, where numbers are whole. -/
inductive HasValue (members : List EnumMember) (i : ℕ) (m : EnumMember) : Literal → Prop where
  | text {text : String} (hvalue : m.value = some (.string text)) : HasValue members i m (.string text)
  | number {initialiser : Expression} {z : ℤ} (hvalue : m.value = some initialiser) (hz : Denotes initialiser z) :
      HasValue members i m (.number (toString z))
  /-- The nearest number in front, plus the distance to it. -/
  | counted {initialiser : Expression} {j : ℕ} {z : ℤ} (hvalue : m.value = none)
      (hnearest : IsNearest members i j initialiser) (hz : Denotes initialiser z) :
      HasValue members i m (.number (toString (z + (i - j : ℕ))))
  | index (hvalue : m.value = none) (hnone : NoneBefore members i) : HasValue members i m (.number (toString i))

/-- A number that members are counted from: that of an initialiser, or the zero from which they are counted as long as
there is none. -/
def CountsFrom (e : EnumSyntax) (z : ℤ) : Prop :=
  z = 0 ∨ ∃ m ∈ e.members, ∃ initialiser, m.value = some initialiser ∧ Denotes initialiser z

/-- All numbers of the enum are whole, and counting from them, once for each member, stays below `2 ^ 53`. -/
structure StaysExact (e : EnumSyntax) : Prop where
  whole : ∀ m ∈ e.members, ∀ initialiser, m.value = some initialiser → IsNumeric initialiser →
    ∃ z : ℤ, Denotes initialiser z
  small : ∀ z : ℤ, CountsFrom e z → z.natAbs + e.members.length < 2 ^ 53

/-! ## The counter -/

/-- The number that the member at place `i` has if it has no initialiser. There is none after a text. -/
inductive Counter (members : List EnumMember) (i : ℕ) : Option Double → Prop where
  | start (hnone : NoneBefore members i) : Counter members i (some (Double.successor^[i] (.ofNat 0)))
  | number {initialiser : Expression} {j : ℕ} {x : Double} (hnearest : IsNearest members i j initialiser)
      (hx : numericValue? initialiser = some x) : Counter members i (some (Double.successor^[i - j] x))
  | text {j : ℕ} {text : String} (hnearest : IsNearest members i j (.string text)) : Counter members i none

/-- The value of the member `m` at place `i`, with numbers as they are counted. -/
inductive Takes (members : List EnumMember) (i : ℕ) (m : EnumMember) : Literal → Prop where
  | text {text : String} (hvalue : m.value = some (.string text)) : Takes members i m (.string text)
  | number {initialiser : Expression} {x : Double} (hvalue : m.value = some initialiser)
      (hx : numericValue? initialiser = some x) : Takes members i m (.number x.decimal)
  | counted {x : Double} (hvalue : m.value = none) (hcounter : Counter members i (some x)) :
      Takes members i m (.number x.decimal)

variable {e : EnumSyntax} {i : ℕ} {m : EnumMember} {next : Option Double} (path : String)

/-- Without an initialiser the counter goes on by one. -/
theorem Counter.succ {members : List EnumMember} {x : Double} (h : Counter members i (some x))
    (hm : members[i]? = some m) (hvalue : m.value = none) : Counter members (i + 1) (some x.successor) := by
  cases h with
  | start hnone =>
    rw [← Function.iterate_succ_apply' Double.successor]
    exact .start (hnone.succ hm hvalue)
  | number hnearest hx =>
    rw [← Function.iterate_succ_apply' Double.successor, ← Nat.succ_sub hnearest.before.le]
    exact .number (hnearest.succ hm hvalue) hx

/-- After a number the counter goes on from it. -/
theorem counter_of_number {members : List EnumMember} {initialiser : Expression} {x : Double}
    (hm : members[i]? = some m) (hvalue : m.value = some initialiser) (hx : numericValue? initialiser = some x) :
    Counter members (i + 1) (some x.successor) := by
  have hstep := Counter.number (isNearest_succ hm hvalue) hx
  rwa [Nat.add_sub_cancel_left] at hstep

theorem Lacks.exists_member {problem : Unsupported} (h : Lacks e i problem) : ∃ m, e.members[i]? = some m := by
  cases h with
  | uninitialised hm => exact ⟨_, hm⟩
  | unreadable hm => exact ⟨_, hm⟩

/-- Nothing is wrong with a member that takes a value. -/
theorem Takes.not_lacks {value : Literal} (h : Takes e.members i m value) (hm : e.members[i]? = some m)
    (problem : Unsupported) : ¬ Lacks e i problem := by
  intro hlacks
  -- Both sides look at the same initialiser, or at the nearest one in front of the member.
  cases hlacks with
  | uninitialised hm' hvalue hnearest =>
    obtain rfl := Option.some.inj (hm.symm.trans hm')
    cases h with
    | text hvalue' => cases hvalue.symm.trans hvalue'
    | number hvalue' _ => cases hvalue.symm.trans hvalue'
    | counted _ hcounter =>
      cases hcounter with
      | start hnone => exact hnearest.not_noneBefore hnone
      | number hnearest' hx =>
        obtain ⟨-, rfl⟩ := hnearest'.unique hnearest
        cases hx
  | unreadable hm' hvalue hnumeric htext =>
    obtain rfl := Option.some.inj (hm.symm.trans hm')
    cases h with
    | text hvalue' => exact htext _ (Option.some.inj (hvalue.symm.trans hvalue'))
    | number hvalue' hx =>
      obtain rfl := Option.some.inj (hvalue.symm.trans hvalue')
      exact hnumeric (isSome_numericValue?_iff.mp (by rw [hx]; rfl))
    | counted hvalue' _ => cases hvalue.symm.trans hvalue'

/-- What is done for one member: it takes its value and the counter is right for the next one, or it lacks one. -/
theorem memberValue_cases (h : Counter e.members i next) (hm : e.members[i]? = some m) :
    (∃ value next', memberValue path e.name next m = .ok (value, next') ∧ Takes e.members i m value ∧
        Counter e.members (i + 1) next') ∨
      ∃ problem, memberValue path e.name next m = .error (.unsupportedSyntax path problem) ∧ Lacks e i problem := by
  unfold memberValue
  cases hvalue : m.value with
  | none =>
    cases next with
    | some x => exact .inl ⟨_, _, rfl, .counted hvalue h, h.succ hm hvalue⟩
    | none =>
      cases h with
      | text hnearest => exact .inr ⟨_, rfl, .uninitialised hm hvalue hnearest⟩
  | some initialiser =>
    dsimp only
    split
    · next x hx => exact .inl ⟨_, _, rfl, .number hvalue hx, counter_of_number hm hvalue hx⟩
    · next text hx => exact .inl ⟨_, _, rfl, .text hvalue, .text (isNearest_succ hm hvalue)⟩
    · next htext hx =>
      refine .inr ⟨_, rfl, .unreadable hm hvalue (fun hnumeric => ?_) htext⟩
      rw [← isSome_numericValue?_iff, hx] at hnumeric
      cases hnumeric

/-- What becomes of the members from place `i` on: all of them take their values, or the first one that lacks one is
reported. -/
theorem casesFrom_cases {rest : List EnumMember} (h : Counter e.members i next) (hrest : e.members.drop i = rest) :
    (∃ cases, casesFrom path e.name next rest = .ok cases ∧ cases.length = rest.length ∧
        ∀ k m, rest[k]? = some m → ∃ value, Takes e.members (i + k) m value ∧ cases[k]? = some ⟨m.name, value⟩) ∨
      ∃ k problem, casesFrom path e.name next rest = .error (.unsupportedSyntax path problem) ∧
        Lacks e (i + k) problem ∧ ∀ k' < k, ∀ problem', ¬ Lacks e (i + k') problem' := by
  -- The counter is right at every place, so that each member is looked at as if the rest began with it.
  induction rest generalizing i next with
  | nil => exact .inl ⟨[], rfl, rfl, fun k m hm => by cases hm⟩
  | cons m rest ih =>
    have hm : e.members[i]? = some m := by
      rw [← List.head?_drop, hrest]
      rfl
    have hrest' : e.members.drop (i + 1) = rest := by
      rw [← List.tail_drop, hrest]
      rfl
    unfold casesFrom
    rcases memberValue_cases path h hm with ⟨value, next', hvalue, htakes, hcounter⟩ | ⟨problem, hproblem, hlacks⟩
    · rw [hvalue]
      have hplace : ∀ k, i + 1 + k = i + (k + 1) := fun k => by omega
      rcases ih hcounter hrest' with ⟨cases, hcases, hlength, hall⟩ | ⟨k, problem, hproblem, hlacks, hall⟩
      · refine .inl ⟨⟨m.name, value⟩ :: cases, ?_, congrArg (· + 1) hlength, fun k m' hm' => ?_⟩
        · simp only [bind, Except.bind, hcases]
          rfl
        · cases k with
          | zero =>
            obtain rfl := Option.some.inj hm'
            exact ⟨value, htakes, rfl⟩
          | succ k =>
            rw [← hplace]
            exact hall k m' hm'
      · refine .inr ⟨k + 1, problem, ?_, hplace k ▸ hlacks, fun k' hk' => ?_⟩
        · simp only [bind, Except.bind, hproblem]
        · cases k' with
          | zero => exact htakes.not_lacks hm
          | succ k' =>
            rw [← hplace]
            exact hall k' (by omega)
    · refine .inr ⟨0, problem, ?_, hlacks, fun k' hk' => absurd hk' (Nat.not_lt_zero k')⟩
      rw [hproblem]
      rfl

/-! ## Whole numbers -/

/-- The number of an initialiser is whole, and so are those that are counted from it. -/
theorem StaysExact.whole_value (h : StaysExact e) {initialiser : Expression} {x : Double} (hm : e.members[i]? = some m)
    (hvalue : m.value = some initialiser) (hx : numericValue? initialiser = some x) :
    ∃ z : ℤ, Denotes initialiser z ∧ x.value? = some (z : ℚ) ∧ z.natAbs + e.members.length < mantissaBound := by
  have hmem := List.mem_of_getElem? hm
  have hnumeric : IsNumeric initialiser := isSome_numericValue?_iff.mp (by rw [hx]; rfl)
  obtain ⟨z, hz⟩ := h.whole m hmem initialiser hvalue hnumeric
  obtain ⟨y, hy, hyz⟩ := denotes_iff.mp hz
  obtain rfl := Option.some.inj (hx.symm.trans hy)
  exact ⟨z, hz, hyz, h.small z (.inr ⟨m, hmem, initialiser, hvalue, hz⟩)⟩

/-- Numbers that stay exact are counted one by one. -/
theorem Takes.hasValue {value : Literal} (h : Takes e.members i m value) (hm : e.members[i]? = some m)
    (hexact : StaysExact e) : HasValue e.members i m value := by
  cases h with
  | text hvalue => exact .text hvalue
  -- An exact number is written out in decimal digits as it is.
  | number hvalue hx =>
    obtain ⟨z, hz, hxz, hsmall⟩ := hexact.whole_value hm hvalue hx
    rw [Double.decimal_of_whole hxz (by omega)]
    exact .number hvalue hz
  | counted hvalue hcounter =>
    have hi : i < e.members.length := (List.getElem?_eq_some_iff.mp hm).1
    cases hcounter with
    | start hnone =>
      have hsmall : 0 + e.members.length < mantissaBound := hexact.small 0 (.inl rfl)
      have hzero : (Double.ofNat 0).value? = some ((0 : ℤ) : ℚ) := Double.value?_ofNat (by omega)
      have hcount := Double.value?_iterate_successor hzero (k := i) (by omega)
      rw [Double.decimal_of_whole hcount (by omega), Int.zero_add]
      exact .index hvalue hnone
    | @number _ j _ hnearest hx =>
      obtain ⟨m', hm', hvalue'⟩ := hnearest.initialised
      obtain ⟨z, hz, hxz, hsmall⟩ := hexact.whole_value hm' hvalue' hx
      have hcount := Double.value?_iterate_successor hxz (k := i - j) (by omega)
      rw [Double.decimal_of_whole hcount (by omega)]
      exact .counted hvalue hnearest hz

/-- What becomes of an enum: all of its members take their values, or the first one that lacks one is reported. -/
theorem enumCases_cases (e : EnumSyntax) :
    (∃ cases, enumCases path e = .ok cases ∧ cases.length = e.members.length ∧
        ∀ i m, e.members[i]? = some m → ∃ value, Takes e.members i m value ∧ cases[i]? = some ⟨m.name, value⟩) ∨
      ∃ i problem, enumCases path e = .error (.unsupportedSyntax path problem) ∧ Lacks e i problem ∧
        ∀ k < i, ∀ problem', ¬ Lacks e k problem' := by
  have hstart : Counter e.members 0 (some (.ofNat 0)) := .start noneBefore_zero
  unfold enumCases
  simpa only [Nat.zero_add] using casesFrom_cases path hstart List.drop_zero

/-- An enum fails exactly if one of its members lacks a value, and then with the problem of the first that does.
Otherwise there is a case for each member, in order, with the value that it has. -/
theorem enumCases_counted (e : EnumSyntax) :
    ((∃ error, enumCases path e = .error error) ↔ ∃ i problem, Lacks e i problem) ∧
      (∀ error, enumCases path e = .error error → ∃ i problem, Lacks e i problem ∧
        (∀ k < i, ∀ problem', ¬ Lacks e k problem') ∧ error = .unsupportedSyntax path problem) ∧
      (StaysExact e → (∀ i problem, ¬ Lacks e i problem) →
        ∃ cases, enumCases path e = .ok cases ∧ cases.length = e.members.length ∧
          ∀ i m, e.members[i]? = some m → ∃ value, HasValue e.members i m value ∧ cases[i]? = some ⟨m.name, value⟩) := by
  -- Either every member takes a value, so that nothing is lacking, or the run ends at the first that lacks one.
  rcases enumCases_cases path e with ⟨cases, hcases, hlength, hall⟩ | ⟨i, problem, hproblem, hlacks, hbefore⟩
  · have hfails : ∀ error, enumCases path e ≠ .error error := by
      intro error herror
      cases hcases.symm.trans herror
    have hlacks : ∀ i problem, ¬ Lacks e i problem := by
      intro i problem hlacks
      obtain ⟨m, hm⟩ := hlacks.exists_member
      obtain ⟨value, hvalue, -⟩ := hall i m hm
      exact hvalue.not_lacks hm problem hlacks
    refine ⟨⟨?_, ?_⟩, fun error herror => absurd herror (hfails error), fun hexact _ => ?_⟩
    · rintro ⟨error, herror⟩
      exact absurd herror (hfails error)
    · rintro ⟨i, problem, hproblem⟩
      exact absurd hproblem (hlacks i problem)
    · refine ⟨cases, hcases, hlength, fun i m hm => ?_⟩
      obtain ⟨value, hvalue, hcase⟩ := hall i m hm
      exact ⟨value, hvalue.hasValue hm hexact, hcase⟩
  · refine ⟨⟨fun _ => ⟨i, problem, hlacks⟩, fun _ => ⟨_, hproblem⟩⟩, fun error herror => ?_, fun _ hnone => ?_⟩
    · exact ⟨i, problem, hlacks, hbefore, Except.error.inj (herror.symm.trans hproblem)⟩
    · exact absurd hlacks (hnone i problem)

/-- An enum that counts across zero, past a text and on from another number. -/
def levels : EnumSyntax :=
  ⟨"Level",
    [⟨"unset", none⟩, ⟨"lowest", some (.negated (.parenthesized (.number (.ofNat 2))))⟩, ⟨"lower", none⟩,
      ⟨"middle", none⟩, ⟨"named", some (.string "named")⟩, ⟨"high", some (.number (.ofNat 7))⟩, ⟨"higher", none⟩]⟩

def levelCases : List EnumCase :=
  [⟨"unset", .number "0"⟩, ⟨"lowest", .number "-2"⟩, ⟨"lower", .number "-1"⟩, ⟨"middle", .number "0"⟩,
    ⟨"named", .string "named"⟩, ⟨"high", .number "7"⟩, ⟨"higher", .number "8"⟩]

theorem levels_initialisers {m : EnumMember} (hm : m ∈ levels.members) {initialiser : Expression}
    (hvalue : m.value = some initialiser) :
    initialiser = .string "named" ∨ Denotes initialiser ((-2 : ℤ) : ℚ) ∨ Denotes initialiser ((7 : ℤ) : ℚ) := by
  have hlow : Denotes (.negated (.parenthesized (.number (.ofNat 2)))) ((-2 : ℤ) : ℚ) := by
    rw [Int.cast_neg]
    exact .negated (.parenthesized (.number (Double.value?_ofNat (by decide))))
  have hhigh : Denotes (.number (.ofNat 7)) ((7 : ℤ) : ℚ) := .number (Double.value?_ofNat (by decide))
  simp only [levels, List.mem_cons, List.not_mem_nil, or_false] at hm
  rcases hm with rfl | rfl | rfl | rfl | rfl | rfl | rfl <;> cases hvalue
  · exact .inr (.inl hlow)
  · exact .inl rfl
  · exact .inr (.inr hhigh)

theorem staysExact_levels : StaysExact levels where
  whole m hm initialiser hvalue hnumeric := by
    rcases levels_initialisers hm hvalue with rfl | hlow | hhigh
    · cases hnumeric
    · exact ⟨_, hlow⟩
    · exact ⟨_, hhigh⟩
  small z hz := by
    have hvalues : z = 0 ∨ z = -2 ∨ z = 7 := by
      rcases hz with rfl | ⟨m, hm, initialiser, hvalue, hz⟩
      · exact .inl rfl
      rcases levels_initialisers hm hvalue with rfl | hlow | hhigh
      · cases hz
      · exact .inr (.inl (Int.cast_inj.mp (hz.unique hlow)))
      · exact .inr (.inr (Int.cast_inj.mp (hz.unique hhigh)))
    rcases hvalues with rfl | rfl | rfl <;> decide

theorem enumCases_counted_levels :
    enumCases "src/level.ts" levels = .ok levelCases ∧ StaysExact levels ∧ (∀ i problem, ¬ Lacks levels i problem) ∧
      ∃ cases, enumCases "src/level.ts" levels = .ok cases ∧ cases.length = 7 ∧
        ∀ i m, levels.members[i]? = some m →
          ∃ value, HasValue levels.members i m value ∧ cases[i]? = some ⟨m.name, value⟩ := by
  obtain ⟨hfails, -, hvalues⟩ := enumCases_counted "src/level.ts" levels
  have hcases : enumCases "src/level.ts" levels = .ok levelCases := by decide +kernel
  have hlacks : ∀ i problem, ¬ Lacks levels i problem := by
    intro i problem hlacks
    obtain ⟨error, herror⟩ := hfails.mpr ⟨i, problem, hlacks⟩
    cases hcases.symm.trans herror
  exact ⟨hcases, staysExact_levels, hlacks, hvalues staysExact_levels hlacks⟩

end ServiceStubs.Resolution
