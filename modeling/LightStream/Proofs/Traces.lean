import LightStream.Proofs.Replica

/-!
Runs with what each applied entry met and left.  A trace lists the entries behind the state of a
store in order, each with the store it was applied to, its result and the store it left.
-/

namespace LightStream

structure Step where
  before : GroupDb
  entry : GroupEntry
  result : ApplyResult
  after : GroupDb

namespace GroupDb

/-- The stores of a replica, each with the steps that its state has taken. -/
inductive Traced (identity : GroupIdentity) (window : Nat) (content : PayloadId → Record)
    (Allowed : GroupDb → GroupEntry → Prop) : List Step → GroupDb → Prop
  | created : Traced identity window content Allowed [] (create identity window)
  | appended {steps : List Step} {db : GroupDb} {entries : List GroupEntry}
      (traced : Traced identity window content Allowed steps db)
      (appendable : Appendable content db entries) :
      Traced identity window content Allowed steps (db.append entries)
  | truncated {steps : List Step} {db next : GroupDb} {lastLogId : Option GroupLogId}
      (traced : Traced identity window content Allowed steps db)
      (done : db.truncateAfter lastLogId = .ok next) :
      Traced identity window content Allowed steps next
  | purged {steps : List Step} {db next : GroupDb} {logId : GroupLogId}
      (traced : Traced identity window content Allowed steps db)
      (done : db.purge logId = .ok next) : Traced identity window content Allowed steps next
  | applied {steps : List Step} {db next : GroupDb} {entry : GroupEntry} {result : ApplyResult}
      (traced : Traced identity window content Allowed steps db)
      (due : Due content db entry) (allowed : Allowed db entry)
      (done : db.applyEntry entry = .ok (result, next)) :
      Traced identity window content Allowed (steps ++ [⟨db, entry, result, next⟩]) next
  | built {steps : List Step} {db next : GroupDb} {artifact : SnapshotArtifact}
      (traced : Traced identity window content Allowed steps db)
      (done : db.buildSnapshot = .ok (artifact, next)) :
      Traced identity window content Allowed steps next
  | installed {steps stored : List Step} {db next source built : GroupDb}
      {artifact : SnapshotArtifact} {encodedBytes : SnapshotRecord → Nat}
      (traced : Traced identity window content Allowed steps db)
      (sourceTraced : Traced identity window content Allowed stored source)
      (done : source.buildSnapshot = .ok (artifact, built))
      (install : db.installSnapshot encodedBytes artifact.metadata artifact = .ok next) :
      Traced identity window content Allowed stored next

variable {identity : GroupIdentity} {window : Nat} {content : PayloadId → Record}
  {Allowed : GroupDb → GroupEntry → Prop} {history : List GroupEntry} {steps : List Step}
  {db : GroupDb}

theorem Traced.ran (traced : Traced identity window content Allowed steps db) :
    Ran identity window content Allowed (steps.map Step.entry) db := by
  induction traced with
  | created => exact .created
  | appended traced appendable ih => exact ih.appended appendable
  | truncated traced done ih => exact ih.truncated done
  | purged traced done ih => exact ih.purged done
  | applied traced due allowed done ih =>
      rw [List.map_append]
      exact ih.applied due allowed done
  | built traced done ih => exact ih.built done
  | installed traced sourceTraced done install ih sourceIh => exact ih.installed sourceIh done install

theorem Ran.traced (ran : Ran identity window content Allowed history db) :
    ∃ steps : List Step, steps.map Step.entry = history ∧
      Traced identity window content Allowed steps db := by
  induction ran with
  | created => exact ⟨[], rfl, .created⟩
  | appended ran appendable ih =>
      obtain ⟨steps, same, traced⟩ := ih
      exact ⟨steps, same, traced.appended appendable⟩
  | truncated ran done ih =>
      obtain ⟨steps, same, traced⟩ := ih
      exact ⟨steps, same, traced.truncated done⟩
  | purged ran done ih =>
      obtain ⟨steps, same, traced⟩ := ih
      exact ⟨steps, same, traced.purged done⟩
  | applied ran due allowed done ih =>
      obtain ⟨steps, rfl, traced⟩ := ih
      refine ⟨_, ?_, traced.applied due allowed done⟩
      rw [List.map_append]
      rfl
  | built ran done ih =>
      obtain ⟨steps, same, traced⟩ := ih
      exact ⟨steps, same, traced.built done⟩
  | installed ran sourceRan done install ih sourceIh =>
      obtain ⟨_, _, traced⟩ := ih
      obtain ⟨stored, same, sourceTraced⟩ := sourceIh
      exact ⟨stored, same, traced.installed sourceTraced done install⟩

/-- A property of the steps and the state they left, true at the start and carried by every allowed
entry, holds of every trace. -/
theorem Traced.invariant {Inv : List Step → ((key : StateKey) → Option (StateVal key)) → Prop}
    (initial : Inv [] fun _ => none)
    (step : ∀ {steps : List Step} {db next : GroupDb} {entry : GroupEntry} {result : ApplyResult},
      Traced identity window content Allowed steps db → Inv steps db.get → Due content db entry →
      Allowed db entry → db.applyEntry entry = .ok (result, next) →
      Inv (steps ++ [⟨db, entry, result, next⟩]) next.get)
    (traced : Traced identity window content Allowed steps db) : Inv steps db.get := by
  have same {first second : GroupDb} (banks : first.banks = second.banks)
      (bank : first.activeBank = second.activeBank) : first.get = second.get := by
    funext key
    rw [get, get, GroupDb.state, GroupDb.state, banks, bank]
  induction traced with
  | created => exact initial
  | appended traced appendable ih => exact ih
  | truncated traced done ih =>
      obtain ⟨_, _, banks, bank⟩ := removeLogRange_frame done
      rw [same banks bank]
      exact ih
  | purged traced done ih =>
      obtain ⟨_, _, banks, bank⟩ := removeLogRange_frame done
      rw [same banks bank]
      exact ih
  | applied traced due allowed done ih => exact step traced ih due allowed done
  | built traced done ih =>
      obtain ⟨_, _, rfl⟩ := buildSnapshot_ok done
      exact ih
  | installed traced sourceTraced done install ih sourceIh =>
      have reads := funext (installSnapshot_get done install)
      rw [reads]
      exact sourceIh

/-- A relation that every entry moves the state along, whatever else a replica does: what a step met
and what it left are so related to the state that the trace has reached. -/
theorem Traced.onward {Rel : GroupDb → GroupDb → Prop}
    (same : ∀ {first second : GroupDb}, second.get = first.get → Rel first second)
    (trans : ∀ {first second third : GroupDb}, Rel first second → Rel second third →
      Rel first third)
    (step : ∀ {steps : List Step} {db next : GroupDb} {entry : GroupEntry} {result : ApplyResult},
      Traced identity window content Allowed steps db →
      db.applyEntry entry = .ok (result, next) → Rel db next)
    (traced : Traced identity window content Allowed steps db) :
    ∀ taken ∈ steps, Rel taken.before db ∧ Rel taken.after db := by
  have reached : ∀ store : GroupDb, store.get = db.get →
      ∀ taken ∈ steps, Rel taken.before store ∧ Rel taken.after store := by
    refine @Traced.invariant identity window content Allowed steps db
      (fun steps get => ∀ store : GroupDb, store.get = get →
        ∀ taken ∈ steps, Rel taken.before store ∧ Rel taken.after store) (by simp) ?_ traced
    intro steps db next entry result traced held due allowed done store reads taken member
    have moved : Rel db store := trans (step traced done) (same reads)
    rcases List.mem_append.mp member with earlier | last
    · obtain ⟨before, after⟩ := held db rfl taken earlier
      exact ⟨trans before moved, trans after moved⟩
    · obtain rfl := List.mem_singleton.mp last
      exact ⟨moved, same reads⟩
  exact reached db rfl

def submitSteps (db : GroupDb) : List GroupEntry → Except IoError (List Step × GroupDb)
  | [] => .ok ([], db)
  | entry :: rest =>
      match db.submit entry with
      | .error error => .error error
      | .ok (result, next) =>
          match next.submitSteps rest with
          | .error error => .error error
          | .ok (steps, last) => .ok (⟨db.append [entry], entry, result, next⟩ :: steps, last)

theorem submitSteps_entries {entries : List GroupEntry} {next : GroupDb}
    (done : db.submitSteps entries = .ok (steps, next)) : steps.map Step.entry = entries := by
  induction entries generalizing db steps with
  | nil =>
      cases done
      rfl
  | cons entry rest ih =>
      simp only [GroupDb.submitSteps] at done
      split at done
      · simp at done
      split at done
      · simp at done
      rename_i tail last submittedRest
      cases done
      rw [List.map_cons, ih submittedRest]

theorem Traced.submitSteps {entries : List GroupEntry} {later : List Step} {next : GroupDb}
    {bound : Nat} (traced : Traced identity window content Allowed steps db)
    (used : db.UsedBelow bound)
    (growing : (bound :: entries.map fun entry => entry.logId.index + 1).Pairwise (· < ·))
    (bytes : ∀ entry ∈ entries, ∀ payload ∈ (thinEntry entry).2, content payload.1 = payload.2)
    (allowed : ∀ step ∈ later, Allowed step.before step.entry)
    (done : db.submitSteps entries = .ok (later, next)) :
    Traced identity window content Allowed (steps ++ later) next := by
  induction entries generalizing db steps bound later with
  | nil =>
      cases done
      rwa [List.append_nil]
  | cons entry rest ih =>
      simp only [GroupDb.submitSteps] at done
      split at done
      · simp at done
      rename_i result middle submitted
      split at done
      · simp at done
      rename_i tail last submittedRest
      cases done
      obtain ⟨first, growingRest⟩ := List.pairwise_cons.mp growing
      have above : bound ≤ entry.logId.index := by
        have below := first (entry.logId.index + 1) (by simp)
        omega
      obtain ⟨appendable, due⟩ := used.due above (bytes entry (by simp))
      have step := (traced.appended appendable).applied due
        (allowed ⟨_, entry, result, middle⟩ (List.mem_cons_self ..)) submitted
      have rest := ih step (used.submit above submitted) (by simpa using growingRest)
        (fun other member => bytes other (by simp [member]))
        (fun other member => allowed other (by simp [member])) submittedRest
      rwa [List.append_assoc, List.singleton_append] at rest

end GroupDb

end LightStream
