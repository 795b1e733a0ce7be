import Automation.Proofs.Value.Dates

/-!
# Nested values

How deeply values are nested in a value (`Value.depth`). Of data as JSON has it, a reply can carry
exactly what is not nested more deeply than there is room (`Value.replyDefect?_eq_none_iff`).
-/

set_option autoImplicit false

namespace Automation.Value

mutual

/-- How many values are nested in one another in a value, itself included. -/
def depth : Value → Nat
  | list items => itemsDepth items + 1
  | record fields => fieldsDepth fields + 1
  | _ => 1

/-- The greatest depth among the items. -/
def itemsDepth : List Value → Nat
  | [] => 0
  | v :: rest => max v.depth (itemsDepth rest)

/-- The greatest depth among the fields. -/
def fieldsDepth : List (String × Value) → Nat
  | [] => 0
  | (_, v) :: rest => max v.depth (fieldsDepth rest)

end

theorem depth_pos (v : Value) : 0 < v.depth := by
  cases v <;> simp [depth]

theorem fieldsDepth_le_iff {fields : List (String × Value)} {room : Nat} :
    fieldsDepth fields ≤ room ↔ ∀ field ∈ fields, field.2.depth ≤ room := by
  induction fields with
  | nil => simp [fieldsDepth]
  | cons field rest ih => simp [fieldsDepth, ih]

mutual

/-- A reply carries JSON that is not nested too deeply. -/
theorem replyDefect?_eq_none_iff {v : Value} (h : v.IsJson) (room : Nat) :
    v.replyDefect? room = none ↔ v.depth ≤ room := by
  cases room with
  -- without room there is a defect in whatever comes, and every value takes some room
  | zero =>
    have hpos := v.depth_pos
    constructor
    · intro hnone
      cases v <;> simp [replyDefect?] at hnone
    · omega
  | succ room =>
    cases v with
    | list items =>
      rw [IsJson] at h
      rw [replyDefect?, itemsDefect?_eq_none_iff h, depth, Nat.add_le_add_iff_right]
    | record fields =>
      rw [IsJson] at h
      rw [replyDefect?, fieldsDefect?_eq_none_iff h, depth, Nat.add_le_add_iff_right]
    | oid id => simp [IsJson] at h
    | _ => simp [replyDefect?, depth]

theorem itemsDefect?_eq_none_iff {items : List Value} (h : IsJsonItems items) (room : Nat) :
    itemsDefect? room items = none ↔ itemsDepth items ≤ room := by
  cases items with
  | nil => simp [itemsDefect?, itemsDepth]
  | cons v rest =>
    rw [IsJsonItems] at h
    rw [itemsDefect?, itemsDepth, Option.or_eq_none_iff, replyDefect?_eq_none_iff h.1,
      itemsDefect?_eq_none_iff h.2, Nat.max_le]

theorem fieldsDefect?_eq_none_iff {fields : List (String × Value)} (h : IsJsonFields fields)
    (room : Nat) : fieldsDefect? room fields = none ↔ fieldsDepth fields ≤ room := by
  cases fields with
  | nil => simp [fieldsDefect?, fieldsDepth]
  | cons field rest =>
    rw [IsJsonFields] at h
    rw [fieldsDefect?, fieldsDepth, Option.or_eq_none_iff, replyDefect?_eq_none_iff h.1,
      fieldsDefect?_eq_none_iff h.2, Nat.max_le]

end

end Automation.Value
