import LightStream.Codec.Text

/-!
Records written one part after the other, without marks between the parts.  Where the parts of two
records have the same kinds, and only a last part has no width of its own, the bytes tell the
records apart; and the bytes of a record start with those of its first parts.
-/

namespace Codec

open Kv (Bytes)

variable {Part Kind : Type}

/-- How the parts of a record are written: what a part becomes, of which kind it is, and which kinds
have a width of their own. -/
structure Layout (Part Kind : Type) where
  encode : Part → Bytes
  kind : Part → Kind
  Closed : Kind → Prop

def Layout.bytes (layout : Layout Part Kind) (parts : List Part) : Bytes :=
  parts.flatMap layout.encode

/-- The parts of a kind that fit are told apart, and those of a closed kind have one width. -/
structure Layout.Readable (layout : Layout Part Kind) (Fits : Part → Prop) : Prop where
  apart : ∀ first second, Fits first → Fits second → layout.kind first = layout.kind second →
    layout.encode first = layout.encode second → first = second
  even : ∀ first second, layout.kind first = layout.kind second →
    layout.Closed (layout.kind first) →
      (layout.encode first).length = (layout.encode second).length

namespace Layout

variable {layout : Layout Part Kind} {Fits : Part → Prop}

theorem bytes_cons (part : Part) (rest : List Part) :
    layout.bytes (part :: rest) = layout.encode part ++ layout.bytes rest :=
  List.flatMap_cons

theorem Readable.splits (readable : layout.Readable Fits) {first second : Part}
    (firstFits : Fits first) (secondFits : Fits second)
    (kinds : layout.kind first = layout.kind second) (closed : layout.Closed (layout.kind first))
    {firstRest secondRest : Bytes}
    (same : layout.encode first ++ firstRest = layout.encode second ++ secondRest) :
    first = second ∧ firstRest = secondRest := by
  obtain ⟨heads, rests⟩ := List.append_inj same (readable.even first second kinds closed)
  exact ⟨readable.apart first second firstFits secondFits kinds heads, rests⟩

theorem bytes_inj (readable : layout.Readable Fits) {first : List Part} :
    ∀ {second : List Part}, (∀ part ∈ first, Fits part) → (∀ part ∈ second, Fits part) →
      first.map layout.kind = second.map layout.kind →
      (∀ part ∈ first.dropLast, layout.Closed (layout.kind part)) →
      layout.bytes first = layout.bytes second → first = second := by
  induction first with
  | nil =>
      intro second _ _ kinds _ _
      exact (List.map_eq_nil_iff.mp kinds.symm).symm
  | cons part rest ih =>
      intro second firstFits secondFits kinds closed same
      cases second with
      | nil => cases kinds
      | cons other others =>
          rw [List.map_cons, List.map_cons, List.cons.injEq] at kinds
          rw [bytes_cons, bytes_cons] at same
          have partFits := firstFits part List.mem_cons_self
          have otherFits := secondFits other List.mem_cons_self
          cases rest with
          | nil =>
              have none := List.map_eq_nil_iff.mp kinds.2.symm
              subst none
              rw [bytes, List.flatMap_nil, List.append_nil, List.append_nil] at same
              rw [readable.apart part other partFits otherFits kinds.1 same]
          | cons next later =>
              have ends := closed part (by simp)
              obtain ⟨rfl, rests⟩ := readable.splits partFits otherFits kinds.1 ends same
              rw [ih (fun part member => firstFits part (List.mem_cons_of_mem _ member))
                (fun part member => secondFits part (List.mem_cons_of_mem _ member)) kinds.2
                (fun part member => closed part (by simp [member])) rests]

/-- Bytes that start with closed parts belong to a record that starts with these parts. -/
theorem bytes_start (readable : layout.Readable Fits) {first : List Part} :
    ∀ {second : List Part}, (∀ part ∈ first, Fits part) → (∀ part ∈ second, Fits part) →
      first.map layout.kind <+: second.map layout.kind →
      (∀ part ∈ first, layout.Closed (layout.kind part)) →
      layout.bytes first <+: layout.bytes second → first <+: second := by
  induction first with
  | nil =>
      intro second _ _ _ _ _
      exact List.nil_prefix
  | cons part rest ih =>
      intro second firstFits secondFits kinds closed under
      cases second with
      | nil => simp at kinds
      | cons other others =>
          rw [List.map_cons, List.map_cons, List.cons_prefix_cons] at kinds
          obtain ⟨behind, same⟩ := under
          rw [bytes_cons, bytes_cons, List.append_assoc] at same
          obtain ⟨rfl, rests⟩ := readable.splits (firstFits part List.mem_cons_self)
            (secondFits other List.mem_cons_self) kinds.1 (closed part List.mem_cons_self) same
          exact List.cons_prefix_cons.mpr ⟨rfl,
            ih (fun part member => firstFits part (List.mem_cons_of_mem _ member))
              (fun part member => secondFits part (List.mem_cons_of_mem _ member)) kinds.2
              (fun part member => closed part (List.mem_cons_of_mem _ member)) ⟨behind, rests⟩⟩

end Layout

end Codec
