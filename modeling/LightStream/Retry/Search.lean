import LightStream.Retry.Loop

/-! A search among candidates: each attempt tries the candidate at an index, goes on to the next
one when it is passed, and starts over with the one it is referred to in front.  The answers are
fixed, so the search either ends at a candidate that is found or goes on for ever. -/

namespace Retry

def Turned.onward {σ β : Type} : Turned σ β → Option σ
  | .again next => some next
  | _ => none

/-- The states of a loop before each turn of an endless script; `none` once it has ended. -/
def states {σ τ β : Type} (turn : σ → τ → Turned σ β) (script : Nat → τ) (start : σ) :
    Nat → Option σ
  | 0 => some start
  | count + 1 =>
    (states turn script start count).bind fun state => (turn state (script count)).onward

section States

variable {σ τ β : Type} {turn : σ → τ → Turned σ β}

theorem onward_some {turned : Turned σ β} {next : σ} :
    turned.onward = some next ↔ turned = .again next := by
  cases turned <;> simp [Turned.onward]

theorem states_front (script : Nat → τ) (start : σ) (count : Nat) :
    states turn script start (count + 1) = (turn start (script 0)).onward.bind fun next =>
      states turn (fun index => script (index + 1)) next count := by
  induction count with
  | zero =>
      rw [states, states, Option.bind_some]
      cases (turn start (script 0)).onward <;> rfl
  | succ count ih =>
      rw [states, ih]
      cases (turn start (script 0)).onward <;> rfl

theorem states_invariant {script : Nat → τ} {start : σ} {Inv : Nat → σ → Prop}
    (kept : ∀ index state next, Inv index state → turn state (script index) = .again next →
      Inv (index + 1) next)
    (begins : Inv 0 start) : ∀ index state,
      states turn script start index = some state → Inv index state := by
  intro index
  induction index with
  | zero =>
      intro state same
      cases same
      exact begins
  | succ index ih =>
      intro state reached
      rw [states, Option.bind_eq_some_iff] at reached
      obtain ⟨before, earlier, moved⟩ := reached
      exact kept index before state (ih before earlier) (onward_some.mp moved)

/-- A run over the first part of an endless script returns what one of its turns returns. -/
theorem run_range_iff {value : β} (count : Nat) : ∀ {script : Nat → τ} {start : σ},
    run turn start ((List.range count).map script) = some value ↔
      ∃ index < count, ∃ state, states turn script start index = some state ∧
        turn state (script index) = .returned value := by
  induction count with
  | zero =>
      intro script start
      simp [run]
  | succ count ih =>
      intro script start
      rw [List.range_succ_eq_map, List.map_cons, List.map_map, run]
      cases moved : turn start (script 0) with
      | again next =>
          change run turn next ((List.range count).map fun index => script (index + 1)) = _ ↔ _
          rw [ih]
          constructor
          · rintro ⟨index, before, state, reached, returned⟩
            refine ⟨index + 1, by omega, state, ?_, returned⟩
            rw [states_front, moved]
            exact reached
          · rintro ⟨index, before, state, reached, returned⟩
            cases index with
            | zero =>
                cases reached
                rw [moved] at returned
                cases returned
            | succ index =>
                rw [states_front, moved] at reached
                exact ⟨index, by omega, state, reached, returned⟩
      | waiting =>
          simp only [reduceCtorEq, false_iff]
          rintro ⟨index, before, state, reached, returned⟩
          cases index with
          | zero =>
              cases reached
              rw [moved] at returned
              cases returned
          | succ index =>
              rw [states_front, moved] at reached
              cases reached
      | returned early =>
          constructor
          · intro same
            cases same
            exact ⟨0, Nat.succ_pos _, start, rfl, moved⟩
          · rintro ⟨index, before, state, reached, returned⟩
            cases index with
            | zero =>
                cases reached
                rw [moved] at returned
                cases returned
                rfl
            | succ index =>
                rw [states_front, moved] at reached
                cases reached

/-- Turns that never wait either return within a part of the script or go on to its end. -/
theorem run_range_none (busy : ∀ state item, turn state item ≠ .waiting) {script : Nat → τ}
    {start : σ} (count : Nat) :
    run turn start ((List.range count).map script) = none ↔
      ∃ state, states turn script start count = some state := by
  constructor
  · intro going
    induction count with
    | zero => exact ⟨start, rfl⟩
    | succ count ih =>
        have earlier : run turn start ((List.range count).map script) = none := by
          rw [Option.eq_none_iff_forall_ne_some] at going ⊢
          intro value early
          obtain ⟨index, before, returned⟩ := (run_range_iff count).mp early
          exact going value ((run_range_iff _).mpr ⟨index, by omega, returned⟩)
        obtain ⟨state, reached⟩ := ih earlier
        cases moved : turn state (script count) with
        | again next =>
            refine ⟨next, ?_⟩
            rw [states, reached, Option.bind_some, moved]
            rfl
        | waiting => exact absurd moved (busy _ _)
        | returned value =>
            have ended : run turn start ((List.range (count + 1)).map script) = some value :=
              (run_range_iff _).mpr ⟨count, Nat.lt_succ_self _, state, reached, moved⟩
            rw [going] at ended
            cases ended
  · rintro ⟨state, reached⟩
    rw [Option.eq_none_iff_forall_ne_some]
    intro value ended
    obtain ⟨index, before, earlier, held, returned⟩ := (run_range_iff count).mp ended
    have stopped : ∀ more, states turn script start (index + 1 + more) = none := by
      intro more
      induction more with
      | zero =>
          rw [Nat.add_zero, states, held, Option.bind_some, returned]
          rfl
      | succ more ih =>
          rw [← Nat.add_assoc, states, ih]
          rfl
    obtain ⟨more, rfl⟩ := Nat.exists_eq_add_of_lt before
    rw [show index + more + 1 = index + 1 + more by omega, stopped] at reached
    cases reached

end States

inductive Answer (α : Type) where
  | found
  | passed
  | referred (next : α)
deriving DecidableEq

structure Search (α : Type) where
  candidates : List α
  nonempty : candidates ≠ []
  index : Nat

namespace Search

variable {α : Type} {respond : α → Answer α} {search : Search α}

def tried (search : Search α) : α :=
  search.candidates.get ⟨search.index % search.candidates.length,
    Nat.mod_lt _ (List.length_pos_of_ne_nil search.nonempty)⟩

theorem tried_listed : search.tried ∈ search.candidates := List.get_mem _ _

theorem tried_at {front back : List α} {candidate : α}
    (split : search.candidates = front ++ candidate :: back)
    (index : search.index = front.length) : search.tried = candidate := by
  have inside : search.index % search.candidates.length = front.length := by
    rw [index, Nat.mod_eq_of_lt]
    rw [split, List.length_append, List.length_cons]
    omega
  have read : search.candidates[search.index % search.candidates.length]? = some candidate := by
    rw [inside, split, List.getElem?_append_right (Nat.le_refl _), Nat.sub_self]
    rfl
  rw [tried, List.get_eq_getElem]
  exact (List.getElem?_eq_some_iff.mp read).2

theorem tried_mem {front back : List α} (split : search.candidates = front ++ back)
    (before : search.index < front.length) : search.tried ∈ front := by
  have inside : search.index % search.candidates.length = search.index := by
    rw [Nat.mod_eq_of_lt]
    rw [split, List.length_append]
    omega
  have read : search.candidates[search.index % search.candidates.length]? =
      some front[search.index] := by
    rw [inside, split, List.getElem?_append_left before, List.getElem?_eq_getElem before]
  rw [tried, List.get_eq_getElem, (List.getElem?_eq_some_iff.mp read).2]
  exact List.getElem_mem before

/-- Following the referrals from a candidate leads to one that is found. -/
inductive Leads (respond : α → Answer α) : α → Prop
  | found {candidate : α} : respond candidate = .found → Leads respond candidate
  | referred {candidate next : α} : respond candidate = .referred next → Leads respond next →
      Leads respond candidate

/-- A search that is caught: the first candidate that is not passed leads nowhere, and the index
has not gone beyond it. -/
def Caught (respond : α → Answer α) (search : Search α) : Prop :=
  ∃ front candidate back, search.candidates = front ++ candidate :: back ∧
    (∀ earlier ∈ front, respond earlier = .passed) ∧ respond candidate ≠ .passed ∧
    ¬Leads respond candidate ∧ search.index ≤ front.length

theorem Caught.not_found (caught : search.Caught respond) : respond search.tried ≠ .found := by
  obtain ⟨front, candidate, back, split, passed, _, lost, index⟩ := caught
  intro answer
  rcases Nat.lt_or_ge search.index front.length with before | reached
  · rw [passed _ (tried_mem split before)] at answer
    cases answer
  · rw [tried_at split (by omega)] at answer
    exact lost (.found answer)

section Steps

variable [DecidableEq α]

def step (limit : Nat) (respond : α → Answer α) (search : Search α) : Option (Search α) :=
  match respond search.tried with
  | .found => none
  | .passed => some { search with index := (search.index + 1) % limit }
  | .referred next => some ⟨next :: search.candidates.erase next, List.cons_ne_nil _ _, 0⟩

def after (limit : Nat) (respond : α → Answer α) (search : Search α) : Nat → Option (Search α)
  | 0 => some search
  | count + 1 => (after limit respond search count).bind (step limit respond)

variable {limit : Nat} {next : Search α}

theorem after_add (first second : Nat) : search.after limit respond (first + second) =
    (search.after limit respond first).bind fun middle => middle.after limit respond second := by
  induction second with
  | zero => cases search.after limit respond first <;> rfl
  | succ second ih =>
      rw [← Nat.add_assoc, after, ih]
      cases search.after limit respond first <;> rfl

theorem after_invariant {Inv : Search α → Prop}
    (kept : ∀ search next, Inv search → search.step limit respond = some next → Inv next)
    (start : Inv search) : ∀ count reached,
      search.after limit respond count = some reached → Inv reached := by
  intro count
  induction count with
  | zero =>
      intro reached same
      cases same
      exact start
  | succ count ih =>
      intro reached taken
      rw [after, Option.bind_eq_some_iff] at taken
      obtain ⟨before, earlier, moved⟩ := taken
      exact kept before reached (ih before earlier) moved

theorem step_keeps (moved : search.step limit respond = some next)
    (distinct : search.candidates.Nodup) :
    next.candidates.Nodup ∧ search.candidates ⊆ next.candidates := by
  rw [step] at moved
  cases answer : respond search.tried with
  | found => simp [answer] at moved
  | passed =>
      simp only [answer, Option.some.injEq] at moved
      subst moved
      exact ⟨distinct, List.Subset.refl _⟩
  | referred hinted =>
      simp only [answer, Option.some.injEq] at moved
      subst moved
      refine ⟨List.nodup_cons.mpr ⟨distinct.not_mem_erase, distinct.erase _⟩, ?_⟩
      intro candidate member
      by_cases same : candidate = hinted
      · rw [same]
        exact List.mem_cons_self
      · exact List.mem_cons_of_mem _ ((List.mem_erase_of_ne same).mpr member)

theorem step_within {listed : List α}
    (referred : ∀ candidate next, respond candidate = .referred next → next ∈ listed)
    (moved : search.step limit respond = some next) (inside : search.candidates ⊆ listed) :
    next.candidates ⊆ listed := by
  rw [step] at moved
  cases answer : respond search.tried with
  | found => simp [answer] at moved
  | passed =>
      simp only [answer, Option.some.injEq] at moved
      subst moved
      exact inside
  | referred hinted =>
      simp only [answer, Option.some.injEq] at moved
      subst moved
      intro candidate member
      rcases List.mem_cons.mp member with rfl | kept
      · exact referred _ _ answer
      · exact inside (List.mem_of_mem_erase kept)

/-- A search that tries a candidate which leads to a found one comes to a found one. -/
theorem Leads.reaches {candidate : α} (leads : Leads respond candidate) :
    ∀ {search : Search α}, search.tried = candidate →
      ∃ count reached, search.after limit respond count = some reached ∧
        respond reached.tried = .found := by
  induction leads with
  | found answer =>
      intro search trying
      exact ⟨0, search, rfl, by rw [trying, answer]⟩
  | referred answer _ ih =>
      intro search trying
      obtain ⟨count, reached, later, done⟩ := ih (@tried_at _
        ⟨_ :: search.candidates.erase _, List.cons_ne_nil _ _, 0⟩ [] _ _ rfl rfl)
      refine ⟨1 + count, reached, ?_, done⟩
      rw [after_add, after, after, Option.bind_some, step, trying, answer]
      exact later

theorem sweep {front back : List α} {candidate : α} (start : search.index = 0)
    (split : search.candidates = front ++ candidate :: back)
    (passed : ∀ earlier ∈ front, respond earlier = .passed) (room : front.length < limit) :
    search.after limit respond front.length = some { search with index := front.length } := by
  have general : ∀ count, count ≤ front.length →
      search.after limit respond count = some { search with index := count } := by
    intro count
    induction count with
    | zero =>
        intro _
        obtain ⟨candidates, nonempty, index⟩ := search
        subst start
        rfl
    | succ count ih =>
        intro bound
        have answer : respond ({ search with index := count } : Search α).tried = .passed :=
          passed _ (tried_mem split bound)
        rw [after, ih (by omega), Option.bind_some, step, answer]
        simp only [Nat.mod_eq_of_lt (show count + 1 < limit by omega)]
  exact general front.length (Nat.le_refl _)

theorem Caught.step (caught : search.Caught respond)
    (moved : search.step limit respond = some next) : next.Caught respond := by
  obtain ⟨front, candidate, back, split, passed, live, lost, index⟩ := caught
  rw [Search.step] at moved
  rcases Nat.lt_or_ge search.index front.length with before | reached
  · rw [passed _ (tried_mem split before)] at moved
    cases moved
    have wrapped := Nat.mod_le (search.index + 1) limit
    exact ⟨front, candidate, back, split, passed, live, lost, by
      change (search.index + 1) % limit ≤ front.length
      omega⟩
  · rw [tried_at split (by omega)] at moved
    cases answer : respond candidate with
    | found => exact absurd (.found answer) lost
    | passed => exact absurd answer live
    | referred hinted =>
        rw [answer] at moved
        cases moved
        have stray : ¬Leads respond hinted := fun leads => lost (.referred answer leads)
        by_cases dead : respond hinted = .passed
        · -- the hinted candidate is passed, so the same referral comes next
          have other : candidate ≠ hinted := by
            rintro rfl
            rw [answer] at dead
            cases dead
          by_cases member : hinted ∈ front
          · refine ⟨hinted :: front.erase hinted, candidate, back, ?_, ?_, live, lost,
              Nat.zero_le _⟩
            · change hinted :: search.candidates.erase hinted = _
              rw [split, List.erase_append_left _ member, List.cons_append]
            · intro earlier listed
              rcases List.mem_cons.mp listed with rfl | kept
              · exact dead
              · exact passed earlier (List.mem_of_mem_erase kept)
          · refine ⟨hinted :: front, candidate, back.erase hinted, ?_, ?_, live, lost,
              Nat.zero_le _⟩
            · change hinted :: search.candidates.erase hinted = _
              rw [split, List.erase_append_right _ member, List.erase_cons_tail (by simpa using other),
                List.cons_append]
            · intro earlier listed
              rcases List.mem_cons.mp listed with rfl | kept
              · exact dead
              · exact passed earlier kept
        · exact ⟨[], hinted, _, rfl, by simp, dead, stray, Nat.zero_le _⟩

theorem step_passed (passed : ∀ candidate ∈ search.candidates, respond candidate = .passed)
    (moved : search.step limit respond = some next) :
    ∀ candidate ∈ next.candidates, respond candidate = .passed := by
  rw [step, passed _ tried_listed] at moved
  cases moved
  exact passed

/-- A search from the front comes to a candidate that is found exactly when the first candidate
that is not passed leads to one. -/
theorem reaches_iff (start : search.index = 0) (sized : search.candidates.length ≤ limit) :
    (∃ count reached, search.after limit respond count = some reached ∧
        respond reached.tried = .found) ↔
      ∃ candidate, search.candidates.find? (fun candidate => respond candidate ≠ .passed) =
        some candidate ∧ Leads respond candidate := by
  constructor
  · rintro ⟨count, reached, taken, done⟩
    cases first : search.candidates.find? (fun candidate => respond candidate ≠ .passed) with
    | none =>
        have passed : ∀ candidate ∈ search.candidates, respond candidate = .passed := by
          simpa using List.find?_eq_none.mp first
        have always := after_invariant (fun _ _ => step_passed) passed count reached taken
        rw [always _ tried_listed] at done
        cases done
    | some candidate =>
        refine ⟨candidate, rfl, ?_⟩
        by_contra lost
        obtain ⟨live, front, back, split, passed⟩ := List.find?_eq_some_iff_append.mp first
        have caught : search.Caught respond := ⟨front, candidate, back, split, by
          simpa using passed, by simpa using live, lost, by omega⟩
        exact (after_invariant (fun _ _ caught moved => caught.step moved) caught count reached
          taken).not_found done
  · rintro ⟨candidate, first, leads⟩
    obtain ⟨_, front, back, split, passed⟩ := List.find?_eq_some_iff_append.mp first
    have room : front.length < limit := by
      rw [split, List.length_append, List.length_cons] at sized
      omega
    have swept := sweep start split (by simpa using passed) room
    obtain ⟨count, reached, later, done⟩ := leads.reaches
      (@tried_at _ { search with index := front.length } _ _ _ split rfl)
    refine ⟨front.length + count, reached, ?_, done⟩
    rw [after_add, swept]
    exact later

end Steps

end Search

end Retry
