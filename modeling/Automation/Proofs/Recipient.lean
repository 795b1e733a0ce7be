import Automation.Http.Service
import Automation.Proofs.Text.LetterCase
import Automation.Recipient

/-!
# The form of a recipient

`FitsForm` says what an address looks like without saying how one looks for its parts. The search
of `isAddress` finds just those texts, and those with a line feed after them (`fitsForm_iff`). What
is kept of a recipient has no line feed at its end, so a request is accepted when what is kept of
its recipient fits the form, and never otherwise (`read_exact`).

A text is kept in a form that is kept as it is (`normal_normal`).
-/

set_option autoImplicit false

namespace Automation.Recipient

open Automation.Text

/-! ## The form -/

/-- An address: no white space, one sign `@` with something before it, and after it a point with
something on either side. -/
structure FitsForm (cs : List Char) : Prop where
  solid : ∀ c ∈ cs, isBlank c = false
  single : cs.count '@' = 1
  parts : ∃ name front back, cs = name ++ '@' :: (front ++ '.' :: back) ∧
    name ≠ [] ∧ front ≠ [] ∧ back ≠ []

/-- A part of an address. -/
def IsPart (cs : List Char) : Prop := ∀ c ∈ cs, isPlain c = true

theorem isPlain_iff {c : Char} : isPlain c = true ↔ isBlank c = false ∧ c ≠ '@' := by
  simp [isPlain]

theorem isPart_cons {c : Char} {cs : List Char} :
    IsPart (c :: cs) ↔ isPlain c = true ∧ IsPart cs :=
  List.forall_mem_cons

theorem isPart_iff {cs : List Char} : IsPart cs ↔ (∀ c ∈ cs, isBlank c = false) ∧ '@' ∉ cs := by
  simp only [IsPart, isPlain_iff, forall_and]
  refine and_congr_right fun _ => ⟨fun h hmem => h '@' hmem rfl, ?_⟩
  rintro h c hc rfl
  exact h hc

/-! ## The search -/

theorem atEnd_iff {cs : List Char} : atEnd cs = true ↔ cs = [] ∨ cs = ['\n'] := by
  match cs with
  | [] => simp [atEnd]
  | [c] => simp [atEnd]
  | _ :: _ :: _ => simp [atEnd]

theorem isPlainToEnd_iff {cs : List Char} :
    isPlainToEnd cs = true ↔
      ∃ back tail, cs = back ++ tail ∧ back ≠ [] ∧ IsPart back ∧ atEnd tail = true := by
  induction cs with
  | nil => simp [isPlainToEnd]
  | cons c rest ih =>
    rw [isPlainToEnd, Bool.and_eq_true, Bool.or_eq_true, ih]
    constructor
    · rintro ⟨hc, htail | ⟨back, tail, rfl, -, hback, htail⟩⟩
      · exact ⟨[c], rest, rfl, by simp, by simpa [IsPart] using hc, htail⟩
      · exact ⟨c :: back, tail, rfl, by simp, isPart_cons.2 ⟨hc, hback⟩, htail⟩
    · rintro ⟨back, tail, heq, hne, hback, htail⟩
      match back, hne with
      | [b], _ =>
        obtain ⟨rfl, rfl⟩ := List.cons.inj heq
        exact ⟨(isPart_cons.1 hback).1, .inl htail⟩
      | b :: d :: back, _ =>
        obtain ⟨rfl, rfl⟩ := List.cons.inj heq
        obtain ⟨hb, hrest⟩ := isPart_cons.1 hback
        exact ⟨hb, .inr ⟨d :: back, tail, rfl, by simp, hrest, htail⟩⟩

/-- A search that passes a part and a sign, and goes on with what follows the sign. -/
theorem passes_iff {search : Bool → List Char → Bool} {next : List Char → Bool} {sign : Char}
    (hnil : ∀ begun, search begun [] = false)
    (hcons : ∀ begun c rest, search begun (c :: rest) =
      ((begun && c == sign && next rest) || (isPlain c && search true rest)))
    {begun : Bool} {cs : List Char} :
    search begun cs = true ↔ ∃ part rest, cs = part ++ sign :: rest ∧
      (begun = false → part ≠ []) ∧ IsPart part ∧ next rest = true := by
  induction cs generalizing begun with
  | nil => simp [hnil]
  | cons c rest ih =>
    simp only [hcons, Bool.or_eq_true, Bool.and_eq_true, beq_iff_eq, ih]
    constructor
    · rintro (⟨⟨rfl, rfl⟩, hnext⟩ | ⟨hc, part, rest, rfl, -, hpart, hnext⟩)
      · exact ⟨[], rest, rfl, nofun, by simp [IsPart], hnext⟩
      · exact ⟨c :: part, rest, rfl, fun _ => by simp, isPart_cons.2 ⟨hc, hpart⟩, hnext⟩
    · rintro ⟨part, rest, heq, hne, hpart, hnext⟩
      cases part with
      | nil =>
        obtain ⟨rfl, rfl⟩ := List.cons.inj heq
        exact .inl ⟨⟨by simpa using hne, rfl⟩, hnext⟩
      | cons p part =>
        obtain ⟨rfl, rfl⟩ := List.cons.inj heq
        obtain ⟨hp, hrest⟩ := isPart_cons.1 hpart
        exact .inr ⟨hp, part, rest, rfl, nofun, hrest, hnext⟩

theorem isDomain_iff {begun : Bool} {cs : List Char} :
    isDomain begun cs = true ↔ ∃ front rest, cs = front ++ '.' :: rest ∧
      (begun = false → front ≠ []) ∧ IsPart front ∧ isPlainToEnd rest = true :=
  passes_iff (fun _ => rfl) fun _ _ _ => rfl

theorem isAddress_iff {begun : Bool} {cs : List Char} :
    isAddress begun cs = true ↔ ∃ name rest, cs = name ++ '@' :: rest ∧
      (begun = false → name ≠ []) ∧ IsPart name ∧ isDomain false rest = true :=
  passes_iff (fun _ => rfl) fun _ _ _ => rfl

/-- The parts of an address that the search finds. -/
theorem isAddress_iff_parts {cs : List Char} :
    isAddress false cs = true ↔ ∃ name front back tail,
      cs = name ++ '@' :: (front ++ '.' :: (back ++ tail)) ∧ (name ≠ [] ∧ IsPart name) ∧
      (front ≠ [] ∧ IsPart front) ∧ (back ≠ [] ∧ IsPart back) ∧ atEnd tail = true := by
  simp only [isAddress_iff, isDomain_iff, isPlainToEnd_iff, true_implies]
  constructor
  · rintro ⟨name, _, rfl, hname, hnamePart, front, _, rfl, hfront, hfrontPart, back, tail, rfl,
      hback, hbackPart, htail⟩
    exact ⟨name, front, back, tail, rfl, ⟨hname, hnamePart⟩, ⟨hfront, hfrontPart⟩,
      ⟨hback, hbackPart⟩, htail⟩
  · rintro ⟨name, front, back, tail, rfl, ⟨hname, hnamePart⟩, ⟨hfront, hfrontPart⟩,
      ⟨hback, hbackPart⟩, htail⟩
    exact ⟨name, _, rfl, hname, hnamePart, front, _, rfl, hfront, hfrontPart, back, tail, rfl,
      hback, hbackPart, htail⟩

/-- A text of three parts fits the form when each of them is one. -/
theorem fitsForm_of_parts {name front back : List Char} (hname : name ≠ [] ∧ IsPart name)
    (hfront : front ≠ [] ∧ IsPart front) (hback : back ≠ [] ∧ IsPart back) :
    FitsForm (name ++ '@' :: (front ++ '.' :: back)) := by
  obtain ⟨hnameSolid, hnameSign⟩ := isPart_iff.1 hname.2
  obtain ⟨hfrontSolid, hfrontSign⟩ := isPart_iff.1 hfront.2
  obtain ⟨hbackSolid, hbackSign⟩ := isPart_iff.1 hback.2
  refine ⟨?_, ?_, name, front, back, rfl, hname.1, hfront.1, hback.1⟩
  · have hsign : isBlank '@' = false ∧ isBlank '.' = false := by decide
    simp only [List.mem_append, List.mem_cons]
    rintro c (hc | rfl | hc | rfl | hc)
    · exact hnameSolid c hc
    · exact hsign.1
    · exact hfrontSolid c hc
    · exact hsign.2
    · exact hbackSolid c hc
  · simp [List.count_eq_zero.2, hnameSign, hfrontSign, hbackSign]

theorem FitsForm.exists_parts {cs : List Char} (h : FitsForm cs) :
    ∃ name front back, cs = name ++ '@' :: (front ++ '.' :: back) ∧ (name ≠ [] ∧ IsPart name) ∧
      (front ≠ [] ∧ IsPart front) ∧ (back ≠ [] ∧ IsPart back) := by
  obtain ⟨hsolid, hsingle, name, front, back, rfl, hname, hfront, hback⟩ := h
  -- the one sign stands between the parts
  have hnone : name.count '@' = 0 ∧ front.count '@' = 0 ∧ back.count '@' = 0 := by
    simp only [List.count_append, List.count_cons] at hsingle
    simp at hsingle
    omega
  simp only [List.count_eq_zero] at hnone
  obtain ⟨hnameSign, hfrontSign, hbackSign⟩ := hnone
  simp only [List.mem_append, List.mem_cons] at hsolid
  exact ⟨name, front, back, rfl,
    ⟨hname, isPart_iff.2 ⟨fun c hc => hsolid c (.inl hc), hnameSign⟩⟩,
    ⟨hfront, isPart_iff.2 ⟨fun c hc => hsolid c (.inr (.inr (.inl hc))), hfrontSign⟩⟩,
    ⟨hback, isPart_iff.2 ⟨fun c hc => hsolid c (.inr (.inr (.inr (.inr hc)))), hbackSign⟩⟩⟩

/-- The search finds the texts that fit the form, and those with a line feed after them. -/
theorem fitsForm_iff {cs : List Char} :
    FitsForm cs ↔ isAddress false cs = true ∧ cs.getLast? ≠ some '\n' := by
  constructor
  · intro h
    obtain ⟨name, front, back, rfl, hname, hfront, hback⟩ := h.exists_parts
    refine ⟨isAddress_iff_parts.2 ⟨name, front, back, [], by simp, hname, hfront, hback, rfl⟩, ?_⟩
    intro hlast
    have hblank := h.solid '\n' (List.mem_of_getLast? hlast)
    exact absurd hblank (by decide)
  · rintro ⟨haddress, hlast⟩
    obtain ⟨name, front, back, tail, rfl, hname, hfront, hback, htail⟩ :=
      isAddress_iff_parts.1 haddress
    rcases atEnd_iff.1 htail with rfl | rfl
    · rw [List.append_nil]
      exact fitsForm_of_parts hname hfront hback
    · refine absurd ?_ hlast
      have hend : name ++ '@' :: (front ++ '.' :: (back ++ ['\n'])) =
          name ++ '@' :: (front ++ '.' :: back) ++ ['\n'] := by simp
      rw [hend, List.getLast?_concat]

instance (cs : List Char) : Decidable (FitsForm cs) := decidable_of_iff _ fitsForm_iff.symm

/-! ## What is kept -/

/-- What is kept of a text is kept as it is. -/
theorem normal_normal (s : String) : normal (normal s) = normal s := by
  unfold normal
  rw [trim_lower_trim, lower_lower]

theorem isTrimmed_normal (s : String) : IsTrimmed isBlank (normal s).toList := by
  have htrimmed : IsTrimmed isBlank (LetterCase.lowerAfter [] (trimChars isBlank s.toList)) :=
    LetterCase.isTrimmed_lowerAfter (isTrimmed_trimChars isBlank s.toList)
  simpa [normal, lower, trim] using htrimmed

theorem fitsForm_normal_iff {s : String} :
    FitsForm (normal s).toList ↔ isAddress false (normal s).toList = true := by
  rw [fitsForm_iff, and_iff_left_iff_imp]
  intro _ hlast
  have hblank := (isTrimmed_normal s).last '\n' hlast
  exact absurd hblank (by decide)

/-- What a recipient that does not fit the form is refused with. -/
def objection (s : String) : Mismatch := if normal s = "" then .emailMissing else .emailFormat

theorem objection_message (s : String) :
    (objection s).message =
      if normal s = "" then "Email is required" else "Invalid email format" := by
  unfold objection
  split <;> rfl

theorem check_eq (s : String) :
    check (some s) =
      if FitsForm (normal s).toList then .ok (normal s) else .error (objection s) := by
  simp only [check, Option.getD_some, objection, String.isEmpty_iff, fitsForm_normal_iff]
  split
  · rename_i hempty
    simp [hempty, isAddress]
  · rfl

/-! ## Requests -/

theorem read_eq {fields : Fields} {s : String} (hs : fields.get? "email" = some (.text s)) :
    read (.record fields) =
      if FitsForm (normal s).toList then .ok (normal s)
      else .refused [⟨[.name "email"], objection s, .text s⟩] := by
  have hfield : readField (.text s) =
      if FitsForm (normal s).toList then .ok (normal s) else .mismatch (objection s) (.text s) := by
    simp only [readField, Reader.optional, Reader.text, Checked.map, check_eq]
    by_cases hfits : FitsForm (normal s).toList
    · simp only [if_pos hfits]
    · simp only [if_neg hfits]
  simp only [read, Reader.record, hs, Option.getD_some, hfield]
  by_cases hfits : FitsForm (normal s).toList
  · simp only [if_pos hfits, Checked.inside]
  · simp only [if_neg hfits, Checked.mismatch, Checked.inside, List.map_cons, List.map_nil]

open Http in
/-- A request is accepted just when what is kept of its recipient fits the form. The recipient is
then what is kept, and one who asks for that gets the same. Any other request is refused, and a run
of a flow is not started for it. -/
theorem read_exact {fields : Fields} {s : String} (hs : fields.get? "email" = some (.text s)) :
    (∀ recipient, read (.record fields) = .ok recipient ↔
      recipient = normal s ∧ FitsForm (normal s).toList) ∧
    (FitsForm (normal s).toList → ∀ again : Fields,
      again.get? "email" = some (.text (normal s)) → read (.record again) = .ok (normal s)) ∧
    (¬ FitsForm (normal s).toList → ∃ m : Mismatch,
      m.message = (if normal s = "" then "Email is required" else "Invalid email format") ∧
      read (.record fields) = .refused [⟨[.name "email"], m, .text s⟩] ∧
      ∀ id, Service.serve (some (.record fields)) (.startRun id) =
        Service.refuse 400 m.message) := by
  refine ⟨fun recipient => ?_, fun hfits again hagain => ?_, fun hfits => ?_⟩
  · rw [read_eq hs]
    by_cases hfits : FitsForm (normal s).toList
    · simp [hfits, eq_comm]
    · simp [hfits]
  · rw [read_eq hagain, normal_normal, if_pos hfits]
  · have hread := read_eq hs
    rw [if_neg hfits] at hread
    refine ⟨objection s, objection_message s, hread, fun id => ?_⟩
    simp [Service.serve, Service.withBody, Service.bodyFields, hread]

/-- A recipient with space around it and capital letters, and one with two signs. -/
theorem read_exact_sample :
    read (.record [("email", .text " Ann.Lee@Mail.Example.ORG\n")]) =
        .ok "ann.lee@mail.example.org" ∧
      ∃ m : Mismatch, m.message = "Invalid email format" ∧
        read (.record [("email", .text "ann@lee@example.org")]) =
          .refused [⟨[.name "email"], m, .text "ann@lee@example.org"⟩] := by
  have hkept : normal " Ann.Lee@Mail.Example.ORG\n" = "ann.lee@mail.example.org" := by
    decide +kernel
  have hfits : FitsForm "ann.lee@mail.example.org".toList := by decide
  have htwo : normal "ann@lee@example.org" ≠ "" ∧
      ¬ FitsForm (normal "ann@lee@example.org").toList := by decide +kernel
  refine ⟨((read_exact rfl).1 _).2 ⟨hkept.symm, by rwa [hkept]⟩, ?_⟩
  have hfield : Fields.get? [("email", .text "ann@lee@example.org")] "email" =
      some (.text "ann@lee@example.org") := rfl
  obtain ⟨m, hmessage, hrefused, -⟩ := (read_exact hfield).2.2 htwo.2
  exact ⟨m, by rw [hmessage, if_neg htwo.1], hrefused⟩

end Automation.Recipient
