import Mathlib.Data.List.Infix
import Mathlib.Logic.Function.Basic

/-! Programs over files that can crash.  A file keeps what is durable and what reads see; a
program remembers every state of the files that it passes, so that a crash between any two
of its operations is one of the states it visited.  Creating, renaming and removing files
take effect at once; written data and lengths are durable when the file is synced. -/

namespace Disk

abbrev Bytes := List UInt8

structure File where
  durable : Bytes
  current : Bytes
deriving DecidableEq

def File.synced (content : Bytes) : File := ⟨content, content⟩

/-- What a crash may leave of a file: one of its two versions cut short, but never less
than what both versions agree on. -/
structure File.Survives (file : File) (content : Bytes) : Prop where
  cut : content <+: file.durable ∨ content <+: file.current
  kept : ∀ shared, shared <+: file.durable → shared <+: file.current → shared <+: content

abbrev Files (κ : Type) := κ → Option File

def Crash {κ : Type} (before after : Files κ) : Prop :=
  ∀ name, match before name with
    | none => after name = none
    | some file => ∃ content, file.Survives content ∧ after name = some (File.synced content)

theorem File.survives_synced {content left : Bytes}
    (survives : (File.synced content).Survives left) : left = content := by
  have upper : left <+: content := by
    rcases survives.cut with cut | cut
    · exact cut
    · exact cut
  have lower := survives.kept content (List.prefix_refl _) (List.prefix_refl _)
  exact upper.eq_of_length_le lower.length_le

theorem Crash.none {κ : Type} {before after : Files κ} (crash : Crash before after) {name : κ}
    (absent : before name = Option.none) : after name = Option.none := by
  have here := crash name
  rw [absent] at here
  exact here

theorem Crash.some {κ : Type} {before after : Files κ} (crash : Crash before after) {name : κ}
    {file : File} (present : before name = Option.some file) :
    ∃ content, file.Survives content ∧ after name = Option.some (File.synced content) := by
  have here := crash name
  rw [present] at here
  exact here

theorem Crash.synced {κ : Type} {before after : Files κ} (crash : Crash before after) {name : κ}
    {content : Bytes} (present : before name = Option.some (File.synced content)) :
    after name = Option.some (File.synced content) := by
  obtain ⟨left, survives, same⟩ := crash.some present
  rw [same, File.survives_synced survives]

structure Outcome (κ ε α : Type) where
  visited : List (Files κ)
  final : Files κ
  result : Except ε α

def Program (κ ε α : Type) := Files κ → Outcome κ ε α

section Monad

variable {κ ε α β : Type}

def Program.pure (value : α) : Program κ ε α := fun files => ⟨[], files, .ok value⟩

def Program.bind (first : Program κ ε α) (next : α → Program κ ε β) : Program κ ε β :=
  fun files =>
    let before := first files
    match before.result with
    | .error error => ⟨before.visited, before.final, .error error⟩
    | .ok value =>
      let after := next value before.final
      ⟨before.visited ++ after.visited, after.final, after.result⟩

instance : Monad (Program κ ε) where
  pure := Program.pure
  bind := Program.bind

def fail (error : ε) : Program κ ε α := fun files => ⟨[], files, .error error⟩

def look (read : Files κ → Except ε α) : Program κ ε α := fun files =>
  ⟨[], files, read files⟩

def change (update : Files κ → Files κ) : Program κ ε Unit := fun files =>
  ⟨[update files], update files, .ok ()⟩

theorem look_bind {read : Files κ → Except ε α} {next : α → Program κ ε β} {files : Files κ}
    (value : α) (found : read files = .ok value) :
    (look read >>= next) files = next value files := by
  show Program.bind (look read) next files = _
  simp only [Program.bind, look, found, List.nil_append]

theorem pure_bind {value : α} {next : α → Program κ ε β} {files : Files κ} :
    (Pure.pure value >>= next) files = next value files :=
  look_bind value rfl

end Monad

section Operations

variable {κ ε : Type} [DecidableEq κ]

def create (name : κ) : Program κ ε Unit := change fun files =>
  match files name with
  | none => Function.update files name (some ⟨[], []⟩)
  | some _ => files

def createTruncated (name : κ) : Program κ ε Unit := change fun files =>
  match files name with
  | none => Function.update files name (some ⟨[], []⟩)
  | some file => Function.update files name (some { file with current := [] })

def modify (name : κ) (update : File → File) : Program κ ε Unit := change fun files =>
  match files name with
  | none => files
  | some file => Function.update files name (some (update file))

def writeAt (name : κ) (offset : Nat) (data : Bytes) : Program κ ε Unit :=
  modify name fun file =>
    { file with
      current := file.current.take offset ++ data ++ file.current.drop (offset + data.length) }

def setLen (name : κ) (length : Nat) : Program κ ε Unit :=
  modify name fun file =>
    { file with
      current := file.current.take length ++ List.replicate (length - file.current.length) 0 }

def sync (name : κ) : Program κ ε Unit :=
  modify name fun file => { file with durable := file.current }

def syncDirectory : Program κ ε Unit := change id

def rename (source target : κ) : Program κ ε Unit := change fun files =>
  Function.update (Function.update files target (files source)) source none

def remove (name : κ) : Program κ ε Unit := change fun files =>
  Function.update files name none

end Operations

/-- From `Pre`, every state `program` passes meets `Between`, and it ends in `Post`. -/
def Spec {κ ε α : Type} (Between Pre : Files κ → Prop) (program : Program κ ε α)
    (Post : Except ε α → Files κ → Prop) : Prop :=
  ∀ files, Pre files → (∀ middle ∈ (program files).visited, Between middle) ∧
    Post (program files).result (program files).final

section Rules

variable {κ ε α β : Type} {Between Pre : Files κ → Prop}

theorem Spec.pure {value : α} {Post : Except ε α → Files κ → Prop}
    (post : ∀ files, Pre files → Post (.ok value) files) :
    Spec Between Pre (Pure.pure value : Program κ ε α) Post := by
  intro files pre
  exact ⟨by simp [Pure.pure, Program.pure], post files pre⟩

theorem Spec.fail {error : ε} {Post : Except ε α → Files κ → Prop}
    (post : ∀ files, Pre files → Post (.error error) files) :
    Spec Between Pre (Disk.fail error : Program κ ε α) Post := by
  intro files pre
  exact ⟨by simp [Disk.fail], post files pre⟩

theorem Spec.look {read : Files κ → Except ε α} {Post : Except ε α → Files κ → Prop}
    (post : ∀ files, Pre files → Post (read files) files) :
    Spec Between Pre (Disk.look read) Post := by
  intro files pre
  exact ⟨by simp [Disk.look], post files pre⟩

theorem Spec.change {update : Files κ → Files κ} {Post : Except ε Unit → Files κ → Prop}
    (between : ∀ files, Pre files → Between (update files))
    (post : ∀ files, Pre files → Post (.ok ()) (update files)) :
    Spec Between Pre (Disk.change update) Post := by
  intro files pre
  exact ⟨by simpa [Disk.change] using between files pre, post files pre⟩

theorem Spec.bind {first : Program κ ε α} {next : α → Program κ ε β}
    {Mid : Except ε α → Files κ → Prop} {Post : Except ε β → Files κ → Prop}
    (before : Spec Between Pre first Mid)
    (after : ∀ value, Spec Between (Mid (.ok value)) (next value) Post)
    (fails : ∀ error files, Mid (.error error) files → Post (.error error) files) :
    Spec Between Pre (first >>= next) Post := by
  intro files pre
  obtain ⟨passed, mid⟩ := before files pre
  show (∀ middle ∈ (Program.bind first next files).visited, Between middle) ∧
    Post (Program.bind first next files).result (Program.bind first next files).final
  unfold Program.bind
  dsimp only
  cases ended : (first files).result with
  | error error =>
      rw [ended] at mid
      exact ⟨passed, fails error _ mid⟩
  | ok value =>
      rw [ended] at mid
      obtain ⟨later, post⟩ := after value _ mid
      refine ⟨?_, post⟩
      intro middle member
      rcases List.mem_append.mp member with earlier | second
      · exact passed middle earlier
      · exact later middle second

theorem Spec.lookThen {read : Files κ → Except ε α} {next : α → Program κ ε β}
    {Post : Except ε β → Files κ → Prop}
    (after : ∀ value, Spec Between (fun files => Pre files ∧ read files = .ok value)
      (next value) Post)
    (fails : ∀ error files, Pre files → read files = .error error → Post (.error error) files) :
    Spec Between Pre (Disk.look read >>= next) Post := by
  have looked : Spec Between Pre (Disk.look read) fun result files =>
      Pre files ∧ read files = result := Spec.look fun files pre => ⟨pre, rfl⟩
  refine Spec.bind looked after ?_
  intro error files given
  exact fails error files given.1 given.2

theorem Spec.weaken {program : Program κ ε α} {Pre' : Files κ → Prop}
    {Post Post' : Except ε α → Files κ → Prop} (spec : Spec Between Pre program Post)
    (pre : ∀ files, Pre' files → Pre files)
    (post : ∀ result files, Post result files → Post' result files) :
    Spec Between Pre' program Post' := by
  intro files given
  obtain ⟨passed, done⟩ := spec files (pre files given)
  exact ⟨passed, post _ _ done⟩

theorem Spec.passing {program : Program κ ε α} {Wider : Files κ → Prop}
    {Post : Except ε α → Files κ → Prop} (spec : Spec Between Pre program Post)
    (wider : ∀ files, Between files → Wider files) : Spec Wider Pre program Post := by
  intro files pre
  obtain ⟨passed, done⟩ := spec files pre
  exact ⟨fun middle member => wider middle (passed middle member), done⟩

theorem Spec.andThen (Mid : Files κ → Prop) {first : Program κ ε Unit}
    {next : Program κ ε β} {Post : Except ε β → Files κ → Prop}
    (before : Spec Between Pre first fun result files => result = .ok () ∧ Mid files)
    (after : Spec Between Mid next Post) : Spec Between Pre (first >>= fun _ => next) Post := by
  refine Spec.bind before (fun _ => ?_) ?_
  · exact after.weaken (fun _ given => given.2) fun _ _ done => done
  · intro error files given
    cases given.1

theorem Spec.changed {Mid : Files κ → Prop} {update : Files κ → Files κ}
    (step : ∀ files, Pre files → Between (update files) ∧ Mid (update files)) :
    Spec Between Pre (Disk.change update : Program κ ε Unit)
      fun result files => result = .ok () ∧ Mid files :=
  Spec.change (fun files pre => (step files pre).1) fun files pre => ⟨rfl, (step files pre).2⟩

end Rules

section FileRules

variable {κ ε : Type} [DecidableEq κ] {Between Pre Mid : Files κ → Prop} {name : κ}

theorem Spec.modify {update : File → File}
    (step : ∀ files, Pre files → ∃ file, files name = some file ∧
      Between (Function.update files name (some (update file))) ∧
      Mid (Function.update files name (some (update file)))) :
    Spec Between Pre (Disk.modify name update : Program κ ε Unit)
      fun result files => result = .ok () ∧ Mid files := by
  refine Spec.change (fun files pre => ?_) fun files pre => ?_
  · obtain ⟨file, found, between, _⟩ := step files pre
    simp only [found]
    exact between
  · obtain ⟨file, found, _, mid⟩ := step files pre
    simp only [found]
    exact ⟨trivial, mid⟩

theorem Spec.createTruncated
    (step : ∀ files, Pre files → ∀ durable,
      (∀ file, files name = some file → durable = file.durable) →
      (files name = none → durable = []) →
      Between (Function.update files name (some ⟨durable, []⟩)) ∧
      Mid (Function.update files name (some ⟨durable, []⟩))) :
    Spec Between Pre (Disk.createTruncated name : Program κ ε Unit)
      fun result files => result = .ok () ∧ Mid files := by
  have both : ∀ files, Pre files → Between (match files name with
        | none => Function.update files name (some ⟨[], []⟩)
        | some file => Function.update files name (some { file with current := [] })) ∧
      Mid (match files name with
        | none => Function.update files name (some ⟨[], []⟩)
        | some file => Function.update files name (some { file with current := [] })) := by
    intro files pre
    cases found : files name with
    | none => exact step files pre [] (fun _ other => by simp [found] at other) fun _ => rfl
    | some file =>
        refine step files pre file.durable (fun other same => ?_) fun absent => ?_
        · rw [found] at same
          cases same
          rfl
        · rw [found] at absent
          cases absent
  exact Spec.change (fun files pre => (both files pre).1) fun files pre =>
    ⟨rfl, (both files pre).2⟩

theorem Spec.create
    (step : ∀ files, Pre files → ∀ after,
      ((files name = none ∧ after = Function.update files name (some ⟨[], []⟩)) ∨
        (files name ≠ none ∧ after = files)) → Between after ∧ Mid after) :
    Spec Between Pre (Disk.create name : Program κ ε Unit)
      fun result files => result = .ok () ∧ Mid files := by
  have both : ∀ files, Pre files → Between (match files name with
        | none => Function.update files name (some ⟨[], []⟩)
        | some _ => files) ∧
      Mid (match files name with
        | none => Function.update files name (some ⟨[], []⟩)
        | some _ => files) := by
    intro files pre
    cases found : files name with
    | none => exact step files pre _ (.inl ⟨found, rfl⟩)
    | some file => exact step files pre _ (.inr ⟨by simp [found], rfl⟩)
  exact Spec.change (fun files pre => (both files pre).1) fun files pre =>
    ⟨rfl, (both files pre).2⟩

end FileRules

end Disk
