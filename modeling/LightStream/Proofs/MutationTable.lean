import LightStream.Proofs.Mutations

/-!
The receipt table of mutations.  A session retains a window of growing sequences, the stored
receipts are those of the retained sequences, and a recorded request keeps its own receipt until
the window pushes it out.
-/

namespace LightStream

structure SessionState.Windowed (session : SessionState) (window : Nat) : Prop where
  bounded : session.retainedSequences.length ≤ window
  growing : session.retainedSequences.Pairwise (· < ·)
  covered : ∀ sequence ∈ session.retainedSequences, session.covers sequence = true

namespace SessionState

variable {session : SessionState} {window sequence other : Nat}

theorem windowed_default : SessionState.default.Windowed window :=
  ⟨Nat.zero_le _, .nil, by simp [SessionState.default]⟩

theorem below_of_uncovered (newer : session.covers sequence = false)
    (covered : session.covers other = true) : other < sequence := by
  unfold covers at newer covered
  cases highest : session.highestSequence with
  | none => simp [highest] at covered
  | some bound =>
      simp only [highest, decide_eq_false_iff_not, decide_eq_true_eq] at newer covered
      omega

theorem Windowed.appended (windowed : session.Windowed window)
    (newer : session.covers sequence = false) :
    (session.retainedSequences ++ [sequence]).Pairwise (· < ·) := by
  refine List.pairwise_append.mpr ⟨windowed.growing, List.pairwise_singleton _ _, ?_⟩
  intro earlier member last single
  rw [List.mem_singleton.mp single]
  exact below_of_uncovered newer (windowed.covered earlier member)

theorem advance_retained : (session.advance window sequence).1.retainedSequences =
    if (session.retainedSequences ++ [sequence]).length > window then
      (session.retainedSequences ++ [sequence]).tail
    else session.retainedSequences ++ [sequence] := by
  unfold advance
  dsimp only
  split <;> rfl

theorem Windowed.advance (windowed : session.Windowed window)
    (newer : session.covers sequence = false) :
    (session.advance window sequence).1.Windowed window := by
  have growing := windowed.appended newer
  have bounded := windowed.bounded
  have covered : ∀ other ∈ session.retainedSequences ++ [sequence],
      (session.advance window sequence).1.covers other = true := by
    intro other member
    rcases List.mem_append.mp member with old | new
    · exact covers_advance newer (windowed.covered other old)
    · rw [List.mem_singleton.mp new]
      simp [covers, advance_highest]
  constructor
  · rw [advance_retained]
    split
    · simp only [List.length_tail, List.length_append, List.length_singleton]
      omega
    · omega
  · rw [advance_retained]
    split
    · exact growing.tail
    · exact growing
  · rw [advance_retained]
    intro other member
    split at member
    · exact covered other (List.mem_of_mem_tail member)
    · exact covered other member

theorem Windowed.mem_advance (windowed : session.Windowed window)
    (newer : session.covers sequence = false) :
    other ∈ (session.advance window sequence).1.retainedSequences ↔
      (other ∈ session.retainedSequences ∨ other = sequence) ∧
        (session.advance window sequence).2 ≠ some other := by
  have growing := windowed.appended newer
  have members : other ∈ session.retainedSequences ++ [sequence] ↔
      other ∈ session.retainedSequences ∨ other = sequence := by simp
  rw [← members]
  unfold SessionState.advance
  dsimp only
  generalize session.retainedSequences ++ [sequence] = retained at growing
  split
  · cases retained with
    | nil => simp
    | cons oldest rest =>
        obtain ⟨above, _⟩ := List.pairwise_cons.mp growing
        simp only [List.tail_cons, List.head?_cons, List.mem_cons, ne_eq, Option.some.injEq]
        constructor
        · intro member
          have later := above other member
          exact ⟨.inr member, by omega⟩
        · rintro ⟨rfl | member, different⟩
          · exact absurd rfl different
          · exact member
  · simp

end SessionState

namespace GroupView

variable {view other : GroupView} {request : MutationRequestId} {fingerprint : MutationFingerprint}
  {result : ApplyResult}

def mutationSession (view : GroupView) (request : MutationRequestId) : SessionState :=
  (view.get (mutationSessionKey request)).getD SessionState.default

section Stored

variable {base : GroupView} {earlier : MutationRequestId}

theorem storeMutationResult_session :
    (base.after (view.storeMutationResult request fingerprint result)).get
      (mutationSessionKey request) =
        some ((view.mutationSession request).advance view.receiptWindow request.sequence).1 := by
  unfold storeMutationResult
  dsimp only
  split <;> simp [after, Kv.pending, mutationSession]

theorem storeMutationResult_other_session {principal : PrincipalId} {session : MutationSessionId}
    (different : mutationSessionKey request ≠ .mutationSession principal session) :
    (base.after (view.storeMutationResult request fingerprint result)).get
      (.mutationSession principal session) = base.get (.mutationSession principal session) := by
  unfold storeMutationResult
  dsimp only
  split <;> simp [after, Kv.pending, Kv.Op.effect, different]

theorem storeMutationResult_receipt :
    (base.after (view.storeMutationResult request fingerprint result)).get
      (.mutationReceipt earlier) =
        if ∃ pushed, ((view.mutationSession request).advance view.receiptWindow
            request.sequence).2 = some pushed ∧ { request with sequence := pushed } = earlier then
          none
        else if request = earlier then some ⟨fingerprint, result⟩
        else base.get (.mutationReceipt earlier) := by
  unfold storeMutationResult mutationSession
  dsimp only
  cases pushed : (((view.get (mutationSessionKey request)).getD SessionState.default).advance
      view.receiptWindow request.sequence).2 with
  | none =>
      by_cases own : request = earlier
      · subst own
        simp [after, Kv.pending, Kv.Op.effect]
      · simp [after, Kv.pending, Kv.Op.effect, own]
  | some sequence =>
      by_cases out : { request with sequence } = earlier
      · simp [after, Kv.pending, Kv.Op.effect, out]
      · by_cases own : request = earlier
        · subst own
          simp [after, Kv.pending, Kv.Op.effect, out]
        · simp [after, Kv.pending, Kv.Op.effect, own, out]

end Stored

structure ReceiptTable (view : GroupView) (window : Nat) : Prop where
  windowed : ∀ principal session,
    ((view.get (.mutationSession principal session)).getD SessionState.default).Windowed window
  retained : ∀ request, (view.get (.mutationReceipt request)).isSome = true ↔
    request.sequence ∈ (view.mutationSession request).retainedSequences

/-- A request that was recorded with a result: its session passed it, and its receipt, while it is
stored, is its own. -/
structure Recorded (view : GroupView) (request : MutationRequestId)
    (fingerprint : MutationFingerprint) (result : ApplyResult) : Prop where
  passed : view.Passed request
  retained : ∀ stored, view.get (.mutationReceipt request) = some stored →
    stored = ⟨fingerprint, result⟩

theorem receiptTable_empty {window : Nat} (empty : ∀ key, view.get key = none) :
    view.ReceiptTable window := by
  constructor
  · intro principal session
    rw [empty]
    exact SessionState.windowed_default
  · intro request
    rw [mutationSession, empty, empty]
    simp [SessionState.default]

section Kept

variable (same : ∀ key : StateKey, key.family = .mutation → other.get key = view.get key)

include same

theorem ReceiptTable.congr {window : Nat} (table : view.ReceiptTable window) :
    other.ReceiptTable window := by
  constructor
  · intro principal session
    rw [same _ rfl]
    exact table.windowed principal session
  · intro request
    rw [mutationSession, same _ rfl, same _ rfl]
    exact table.retained request

theorem Recorded.congr (recorded : view.Recorded request fingerprint result) :
    other.Recorded request fingerprint result := by
  constructor
  · rw [Passed, same _ rfl]
    exact recorded.passed
  · rw [same _ rfl]
    exact recorded.retained

variable {earlier : MutationRequestId} {first : MutationFingerprint} {answer : ApplyResult}
  (fresh : view.priorMutationResult request fingerprint = none)

include fresh

theorem ReceiptTable.stored (table : view.ReceiptTable view.receiptWindow) :
    (other.after (view.storeMutationResult request fingerprint result)).ReceiptTable
      view.receiptWindow := by
  have newer := priorMutationResult_fresh fresh
  have windowed : (view.mutationSession request).Windowed view.receiptWindow :=
    table.windowed request.principal request.session
  constructor
  · intro principal session
    by_cases own : mutationSessionKey request = .mutationSession principal session
    · obtain ⟨rfl, rfl⟩ : request.principal = principal ∧ request.session = session := by
        simpa using own
      rw [storeMutationResult_session, Option.getD_some]
      exact windowed.advance newer
    · rw [storeMutationResult_other_session own, same _ rfl]
      exact table.windowed principal session
  · intro kept
    rw [storeMutationResult_receipt, same _ rfl]
    by_cases own : mutationSessionKey request = mutationSessionKey kept
    · obtain ⟨principal, session, sequence⟩ := kept
      obtain ⟨rfl, rfl⟩ : request.principal = principal ∧ request.session = session := by
        simpa using own
      have before : (view.get (.mutationReceipt { request with sequence })).isSome = true ↔
          sequence ∈ (view.mutationSession request).retainedSequences := table.retained _
      have pushed : (∃ pushed, ((view.mutationSession request).advance view.receiptWindow
            request.sequence).2 = some pushed ∧
          { request with sequence := pushed } = { request with sequence }) ↔
          ((view.mutationSession request).advance view.receiptWindow request.sequence).2 =
            some sequence := by simp
      have named : request = { request with sequence } ↔ sequence = request.sequence := by
        constructor
        · intro named
          rw [named]
        · rintro rfl
          rfl
      have after : (other.after (view.storeMutationResult request fingerprint
          result)).mutationSession { request with sequence } =
            ((view.mutationSession request).advance view.receiptWindow request.sequence).1 := by
        show (GroupView.get _ (mutationSessionKey request)).getD _ = _
        rw [storeMutationResult_session, Option.getD_some]
      rw [after, windowed.mem_advance newer, ← before]
      simp only [pushed, named]
      split
      · simp_all
      · split
        · simp_all
        · simp_all
    · have unpushed : ¬∃ pushed, ((view.mutationSession request).advance view.receiptWindow
          request.sequence).2 = some pushed ∧ { request with sequence := pushed } = kept := by
        rintro ⟨_, _, rfl⟩
        exact own rfl
      have different : request ≠ kept := by
        rintro rfl
        exact own rfl
      rw [if_neg unpushed, if_neg different, mutationSession,
        storeMutationResult_other_session own, same _ rfl]
      exact table.retained kept

theorem Recorded.stored (recorded : view.Recorded earlier first answer) :
    (other.after (view.storeMutationResult request fingerprint result)).Recorded earlier first
      answer := by
  constructor
  · exact storeMutationResult_passed same fresh (.inr recorded.passed)
  · intro kept found
    rw [storeMutationResult_receipt, same _ rfl] at found
    split at found
    · simp at found
    split at found
    · rename_i again
      have passed := recorded.passed
      rw [← again, Passed, priorMutationResult_fresh fresh] at passed
      simp at passed
    · exact recorded.retained kept found

theorem stored_recorded :
    (other.after (view.storeMutationResult request fingerprint result)).Recorded request
      fingerprint result := by
  constructor
  · exact storeMutationResult_passed same fresh (.inl rfl)
  · intro kept found
    rw [storeMutationResult_receipt] at found
    split at found
    · simp at found
    · rw [if_pos rfl] at found
      exact (Option.some.inj found).symm

end Kept

end GroupView

end LightStream
