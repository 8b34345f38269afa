import Mathlib.Data.List.Basic
import Mathlib.Data.List.Nodup

/-!
The books of a service that takes requests into a queue, hands them on in order and answers
them.  `Sound` says that nothing is lost, reordered, handed on twice or answered twice; one
lemma for each thing that can happen to a request.
-/

namespace Queue

/-- `entering` were let in and are not queued yet, `turnedAway` never will be; `queue` may still
be handed on; `waiting` were not answered. -/
structure Ledger (α ρ : Type) where
  entering : List α
  turnedAway : List α
  admitted : List α
  queue : List α
  submitted : List α
  waiting : List α
  replies : List (α × ρ)
  cancelled : List α

namespace Ledger

variable {α ρ : Type}

def answered (ledger : Ledger α ρ) : List α := ledger.replies.map Prod.fst

/-- The requests that were handed on or may be. -/
def live (ledger : Ledger α ρ) : List α := ledger.submitted ++ ledger.queue

/-- A reply that refuses says that the request was not handed on and never will be. -/
structure Sound (refuses : ρ → Prop) (ledger : Ledger α ρ) : Prop where
  distinct : (ledger.entering ++ ledger.turnedAway ++ ledger.admitted).Nodup
  ordered : ledger.live.Sublist ledger.admitted
  accounted : ∀ request ∈ ledger.admitted,
    request ∈ ledger.live ∨ request ∈ ledger.answered ∨ request ∈ ledger.cancelled
  once : (ledger.answered ++ ledger.waiting).Nodup
  known : ∀ request ∈ ledger.answered ++ ledger.waiting, request ∈ ledger.admitted
  served : ∀ request ∈ ledger.admitted,
    request ∈ ledger.answered ∨ request ∈ ledger.waiting ∨ request ∈ ledger.cancelled
  honest : ∀ entry ∈ ledger.replies, refuses entry.2 → entry.1 ∉ ledger.live

def empty : Ledger α ρ := ⟨[], [], [], [], [], [], [], []⟩

variable {refuses : ρ → Prop} {ledger : Ledger α ρ}

theorem Sound.empty : Sound refuses (empty : Ledger α ρ) := by
  refine ⟨List.nodup_nil, List.nil_sublist _, ?_, List.nodup_nil, ?_, ?_, ?_⟩ <;>
    simp [Ledger.empty, answered]

theorem Sound.live_nodup (sound : ledger.Sound refuses) : ledger.live.Nodup :=
  sound.ordered.nodup (List.nodup_append.mp sound.distinct).2.1

theorem Sound.answered_nodup (sound : ledger.Sound refuses) : ledger.answered.Nodup :=
  (List.nodup_append.mp sound.once).1

/-- A request that is dropped from the queue or from those that wait, cancelled or answered. -/
theorem Sound.leave (sound : ledger.Sound refuses) {queue waiting : List α}
    (fewer : queue.Sublist ledger.queue) (less : waiting.Sublist ledger.waiting)
    (left : ∀ request ∈ ledger.queue,
      request ∈ queue ∨ request ∈ ledger.answered ∨ request ∈ ledger.cancelled)
    (gone : ∀ request ∈ ledger.waiting, request ∈ waiting ∨ request ∈ ledger.cancelled) :
    Sound refuses { ledger with queue := queue, waiting := waiting } := by
  have live : (Ledger.live { ledger with queue := queue, waiting := waiting }).Sublist
      ledger.live := (List.Sublist.refl _).append fewer
  refine ⟨sound.distinct, live.trans sound.ordered, ?_, ?_, ?_, ?_, ?_⟩
  · intro request admitted
    rcases sound.accounted request admitted with member | rest
    · rcases List.mem_append.mp member with submitted | queued
      · exact .inl (List.mem_append_left _ submitted)
      · rcases left request queued with kept | rest
        · exact .inl (List.mem_append_right _ kept)
        · exact .inr rest
    · exact .inr rest
  · exact ((List.Sublist.refl _).append less).nodup sound.once
  · intro request known
    exact sound.known request (((List.Sublist.refl _).append less).subset known)
  · intro request admitted
    rcases sound.served request admitted with answered | waits | cancelled
    · exact .inl answered
    · exact .inr (gone request waits)
    · exact .inr (.inr cancelled)
  · intro entry replied refusal member
    exact sound.honest entry replied refusal (live.subset member)

theorem Sound.cancel (sound : ledger.Sound refuses) (request : α) :
    Sound refuses { ledger with cancelled := ledger.cancelled ++ [request] } := by
  refine ⟨sound.distinct, sound.ordered, ?_, sound.once, sound.known, ?_, sound.honest⟩
  · intro other admitted
    exact (sound.accounted other admitted).imp_right fun rest =>
      rest.imp_right (List.mem_append_left _)
  · intro other admitted
    exact (sound.served other admitted).imp_right fun rest =>
      rest.imp_right (List.mem_append_left _)

theorem Sound.submit (sound : ledger.Sound refuses) {first rest : List α}
    (split : ledger.queue = first ++ rest) :
    Sound refuses { ledger with queue := rest, submitted := ledger.submitted ++ first } := by
  have live : Ledger.live { ledger with queue := rest, submitted := ledger.submitted ++ first } =
      ledger.live := by
    simp only [Ledger.live, split, List.append_assoc]
  exact ⟨sound.distinct, live ▸ sound.ordered, live ▸ sound.accounted, sound.once, sound.known,
    sound.served, live ▸ sound.honest⟩

theorem Sound.answer (sound : ledger.Sound refuses) {request : α} {rest queue : List α} {reply : ρ}
    (waits : ledger.waiting = request :: rest) (fewer : queue.Sublist ledger.queue)
    (left : ∀ other ∈ ledger.queue, other ∈ queue ∨ other = request)
    (honest : refuses reply → request ∉ ledger.submitted ++ queue) :
    Sound refuses { ledger with
      queue := queue
      waiting := rest
      replies := ledger.replies ++ [(request, reply)] } := by
  have live : (Ledger.live { ledger with
      queue := queue
      waiting := rest
      replies := ledger.replies ++ [(request, reply)] }).Sublist ledger.live :=
    (List.Sublist.refl _).append fewer
  have answered : Ledger.answered { ledger with
      queue := queue
      waiting := rest
      replies := ledger.replies ++ [(request, reply)] } = ledger.answered ++ [request] :=
    List.map_append ..
  have same : ledger.answered ++ [request] ++ rest = ledger.answered ++ ledger.waiting := by
    rw [waits, List.append_assoc]
    rfl
  refine ⟨sound.distinct, live.trans sound.ordered, ?_, ?_, ?_, ?_, ?_⟩
  · intro other admitted
    rw [answered]
    rcases sound.accounted other admitted with member | replied | cancelled
    · rcases List.mem_append.mp member with submitted | queued
      · exact .inl (List.mem_append_left _ submitted)
      · rcases left other queued with kept | rfl
        · exact .inl (List.mem_append_right _ kept)
        · exact .inr (.inl (List.mem_append_right _ List.mem_cons_self))
    · exact .inr (.inl (List.mem_append_left _ replied))
    · exact .inr (.inr cancelled)
  · rw [answered, same]
    exact sound.once
  · intro other known
    rw [answered, same] at known
    exact sound.known other known
  · intro other admitted
    rw [answered]
    rcases sound.served other admitted with replied | waiting | cancelled
    · exact .inl (List.mem_append_left _ replied)
    · rw [waits] at waiting
      rcases List.mem_cons.mp waiting with rfl | later
      · exact .inl (List.mem_append_right _ List.mem_cons_self)
      · exact .inr (.inl later)
    · exact .inr (.inr cancelled)
  · intro entry replied refusal
    rcases List.mem_append.mp replied with old | new
    · exact fun member => sound.honest entry old refusal (live.subset member)
    · obtain rfl := List.mem_singleton.mp new
      exact honest refusal

theorem Sound.answerAll (reply : α → ρ) (commits : ∀ request, ¬refuses (reply request))
    {first rest : List α} (sound : ledger.Sound refuses) (waits : ledger.waiting = first ++ rest) :
    Sound refuses { ledger with
      waiting := rest
      replies := ledger.replies ++ first.map fun request => (request, reply request) } := by
  induction first generalizing ledger with
  | nil =>
      obtain rfl : ledger.waiting = rest := waits
      rw [List.map_nil, List.append_nil]
      exact sound
  | cons request first ih =>
      have one := sound.answer waits (List.Sublist.refl _) (fun _ queued => .inl queued)
        (fun refusal => absurd refusal (commits request))
      have all := ih one rfl
      rw [List.append_assoc] at all
      exact all

section
variable [DecidableEq α]

theorem Sound.enter (sound : ledger.Sound refuses) {request : α}
    (fresh : request ∉ ledger.entering ++ ledger.turnedAway ++ ledger.admitted) :
    Sound refuses { ledger with entering := ledger.entering ++ [request] } := by
  refine ⟨?_, sound.ordered, sound.accounted, sound.once, sound.known, sound.served, sound.honest⟩
  have moved : (ledger.entering ++ [request] ++ ledger.turnedAway ++ ledger.admitted).Perm
      (request :: (ledger.entering ++ ledger.turnedAway ++ ledger.admitted)) := by
    rw [List.perm_iff_count]
    intro other
    simp only [List.count_append, List.count_cons, List.count_nil]
    omega
  exact moved.nodup_iff.mpr (List.nodup_cons.mpr ⟨fresh, sound.distinct⟩)

theorem Sound.refuse (sound : ledger.Sound refuses) {request : α}
    (fresh : request ∉ ledger.entering ++ ledger.turnedAway ++ ledger.admitted) :
    Sound refuses { ledger with turnedAway := ledger.turnedAway ++ [request] } := by
  refine ⟨?_, sound.ordered, sound.accounted, sound.once, sound.known, sound.served, sound.honest⟩
  have moved : (ledger.entering ++ (ledger.turnedAway ++ [request]) ++ ledger.admitted).Perm
      (request :: (ledger.entering ++ ledger.turnedAway ++ ledger.admitted)) := by
    rw [List.perm_iff_count]
    intro other
    simp only [List.count_append, List.count_cons, List.count_nil]
    omega
  exact moved.nodup_iff.mpr (List.nodup_cons.mpr ⟨fresh, sound.distinct⟩)

theorem Sound.turnAway (sound : ledger.Sound refuses) {request : α}
    (member : request ∈ ledger.entering) :
    Sound refuses { ledger with
      entering := ledger.entering.erase request
      turnedAway := ledger.turnedAway ++ [request] } := by
  refine ⟨?_, sound.ordered, sound.accounted, sound.once, sound.known, sound.served, sound.honest⟩
  have moved : (ledger.entering.erase request ++ (ledger.turnedAway ++ [request]) ++
      ledger.admitted).Perm (ledger.entering ++ ledger.turnedAway ++ ledger.admitted) := by
    have taken := List.perm_cons_erase member
    rw [List.perm_iff_count] at taken ⊢
    intro other
    have count := taken other
    simp only [List.count_append, List.count_cons, List.count_nil] at count ⊢
    omega
  exact moved.nodup_iff.mpr sound.distinct

theorem Sound.enqueued (sound : ledger.Sound refuses) {request : α}
    (member : request ∈ ledger.entering) :
    Sound refuses { ledger with
      entering := ledger.entering.erase request
      admitted := ledger.admitted ++ [request]
      queue := ledger.queue ++ [request]
      waiting := ledger.waiting ++ [request] } := by
  have fresh : request ∉ ledger.admitted := by
    intro admitted
    have disjoint := (List.nodup_append.mp sound.distinct).2.2
    exact disjoint request (List.mem_append_left _ member) request admitted rfl
  have live : Ledger.live { ledger with
      entering := ledger.entering.erase request
      admitted := ledger.admitted ++ [request]
      queue := ledger.queue ++ [request]
      waiting := ledger.waiting ++ [request] } = ledger.live ++ [request] :=
    (List.append_assoc ..).symm
  refine ⟨?_, ?_, ?_, ?_, ?_, ?_, ?_⟩
  · have moved : (ledger.entering.erase request ++ ledger.turnedAway ++
        (ledger.admitted ++ [request])).Perm
          (ledger.entering ++ ledger.turnedAway ++ ledger.admitted) := by
      have taken := List.perm_cons_erase member
      rw [List.perm_iff_count] at taken ⊢
      intro other
      have count := taken other
      simp only [List.count_append, List.count_cons, List.count_nil] at count ⊢
      omega
    exact moved.nodup_iff.mpr sound.distinct
  · rw [live]
    exact sound.ordered.append (List.Sublist.refl _)
  · intro other admitted
    rw [live]
    rcases List.mem_append.mp admitted with old | new
    · rcases sound.accounted other old with live | rest
      · exact .inl (List.mem_append_left _ live)
      · exact .inr rest
    · exact .inl (List.mem_append_right _ new)
  · show (ledger.answered ++ (ledger.waiting ++ [request])).Nodup
    rw [← List.append_assoc]
    refine List.nodup_append.mpr ⟨sound.once, List.nodup_singleton _, ?_⟩
    intro other old last new same
    rw [same, List.mem_singleton.mp new] at old
    exact fresh (sound.known request old)
  · intro other known
    rw [Ledger.answered, ← List.append_assoc] at known
    rcases List.mem_append.mp known with old | new
    · exact List.mem_append_left _ (sound.known other old)
    · exact List.mem_append_right _ new
  · intro other admitted
    rcases List.mem_append.mp admitted with old | new
    · rcases sound.served other old with answered | waits | cancelled
      · exact .inl answered
      · exact .inr (.inl (List.mem_append_left _ waits))
      · exact .inr (.inr cancelled)
    · exact .inr (.inl (List.mem_append_right _ new))
  · intro entry replied refusal
    rw [live]
    intro member
    rcases List.mem_append.mp member with old | new
    · exact sound.honest entry replied refusal old
    · have answered : entry.1 ∈ ledger.answered := List.mem_map_of_mem replied
      rw [List.mem_singleton.mp new] at answered
      exact fresh (sound.known request (List.mem_append_left _ answered))

end

end Ledger

end Queue
