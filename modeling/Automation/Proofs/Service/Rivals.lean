import Automation.Proofs.Service.Catalog
import Automation.Proofs.Service.Isolation
import Automation.Proofs.World.Crowd

/-!
# Requests for one name

A request that makes a flow or renames one looks its name up first and writes it afterwards
(`Editor.create_looksFirst`, `Editor.update_looksFirst`). Other requests may go on in between, so
two requests that overlap can both find a name free and both write it (`Crowd.twins_sharing`). Only
then do two saved flows share a name: each of the two requests has looked the name up before the
other wrote it, and a request that finds the name taken writes nothing and is refused
(`Crowd.shared_name_overlaps`).
-/

set_option autoImplicit false

namespace Automation

open World (Outcome)
open Program

/-! ## Searches and claims -/

/-- A search for a flow by its name, passing over one flow, and what it found. -/
def Exchange.looked (name : String) (own : Option ObjectId) (found : Option Document) : Exchange :=
  ⟨.query (.findOne .flows (.textIs "name" name :: (own.map Clause.idIsNot).toList)), .ok found⟩

/-- The flow that an exchange found. -/
def Exchange.foundFlow? : Exchange → Option Document
  | ⟨.query (.findOne .flows _), .ok found⟩ => found
  | _ => none

/-- An exchange by which a flow gets a name: it is made, or it is changed. -/
inductive Exchange.Claims (name : String) (id : ObjectId) : Exchange → Prop
  | made {fields : Fields} (hname : fields.get? "name" = some (.text name)) :
      Claims name id ⟨.query (.insert .flows fields), .ok (some id)⟩
  | renamed (nodes : Option (List Node)) (edges : Option (List Edge)) (now : Moment)
      (found : Option Document) :
      Claims name id ⟨.query (.change .flows id
        ((revisedFields (some name) nodes edges).insert "updated_at" (.date now))), .ok found⟩

theorem Exchange.Claims.not_sparesFlows {name : String} {id : ObjectId} {e : Exchange}
    (h : e.Claims name id) : ¬ e.request.SparesFlows := by
  cases h <;> exact fun hspares => hspares

/-- One exchange gives a name to one flow. -/
theorem Exchange.Claims.eq {name : String} {id id' : ObjectId} {e : Exchange} (h : e.Claims name id)
    (h' : e.Claims name id') : id = id' := by
  have hquery : ∀ {id : ObjectId}, e.Claims name id →
      (∃ fields, e = ⟨.query (.insert .flows fields), .ok (some id)⟩) ∨
        ∃ changes found, e = ⟨.query (.change .flows id changes), .ok found⟩ := by
    rintro id (hname | ⟨nodes, edges, now, found⟩)
    · exact Or.inl ⟨_, rfl⟩
    · exact Or.inr ⟨_, found, rfl⟩
  obtain ⟨fields, rfl⟩ | ⟨changes, found, rfl⟩ := hquery h <;>
    obtain ⟨fields', heq⟩ | ⟨changes', found', heq⟩ := hquery h' <;> cases heq <;> rfl

/-! ## A request looks first -/

/-- No exchange has written a flow. -/
def Unwritten (es : List Exchange) : Prop := ∀ e ∈ es, e.request.SparesFlows

/-- No search by name has found a flow. -/
def Untaken (es : List Exchange) : Prop := ∀ name own d, Exchange.looked name own (some d) ∉ es

/-- What a request about a name may ask: it searches before it writes, it writes once, and it writes
a name only after a search for it has found no flow but the one that is to have it. -/
def LooksFirst (es : List Exchange) : Request → Prop
  | .query (.findOne .flows _) => Unwritten es
  | .query (.insert .flows fields) => Unwritten es ∧ Untaken es ∧
      ∃ name, fields.get? "name" = some (.text name) ∧ Exchange.looked name none none ∈ es
  | .query (.change .flows id changes) => Unwritten es ∧ Untaken es ∧
      ∃ name nodes edges now,
        changes = (revisedFields name nodes edges).insert "updated_at" (.date now) ∧
          ∀ t ∈ name, Exchange.looked t (some id) none ∈ es
  | r => r.IsQuiet

/-- A search by name has found this flow, and nothing is written. -/
structure Taken (d : Document) (es : List Exchange) : Prop where
  unwritten : Unwritten es
  found : ∀ name own d', Exchange.looked name own (some d') ∈ es → d' = d

/-- A document that does not read as a flow. -/
def Document.IsNoFlow (d : Document) : Prop := ∃ now e, Repository.flowOf now d = .error e

/-- A request that has found its name taken ends refused for that reason, or it fails since the flow
that it found does not read; and it has written nothing. -/
def EndsRefused (es : List Exchange) (o : Outcome Flow) : Prop :=
  ∀ name own d, Exchange.looked name own (some d) ∈ es →
    Unwritten es ∧ (o = .failed .nameTaken ∨ d.IsNoFlow ∧ ∃ f, o = .failed f)

variable {α : Type} {es : List Exchange} {d : Document}

/-- The setting of a request about a name. -/
abbrev looking : Setting (List Exchange) := Setting.ofPast LooksFirst

theorem Unwritten.concat (h : Unwritten es) {e : Exchange} (he : e.request.SparesFlows) :
    Unwritten (es ++ [e]) := by
  intro e' he'
  rcases List.mem_append.1 he' with he' | he'
  · exact h e' he'
  · rw [List.mem_singleton.1 he']
    exact he

theorem Untaken.concat (h : Untaken es) {e : Exchange}
    (he : ∀ name own d, e ≠ Exchange.looked name own (some d)) : Untaken (es ++ [e]) := by
  intro name own d hmem
  rcases List.mem_append.1 hmem with hmem | hmem
  · exact h name own d hmem
  · exact he name own d (List.mem_singleton.1 hmem).symm

theorem looksFirst_of_isQuiet {r : Request} (h : r.IsQuiet) : LooksFirst es r := by
  rcases h.eq with rfl | ⟨e, rfl⟩ | rfl <;> trivial

theorem ne_looked_of_isQuiet {r : Request} {x : r.Answer} (h : r.IsQuiet) (name : String)
    (own : Option ObjectId) (found : Option Document) :
    (⟨r, x⟩ : Exchange) ≠ Exchange.looked name own found := by
  intro heq
  cases (congrArg Exchange.request heq : r = _)
  exact h

/-- A request writes after none has written. -/
theorem LooksFirst.unwritten {r : Request} (h : LooksFirst es r) (hr : ¬ r.SparesFlows) :
    Unwritten es := by
  cases r with
  | query q =>
    cases q with
    | insert c fields => cases c <;> first | exact h.1 | exact absurd trivial hr
    | change c id changes => cases c <;> first | exact h.1 | exact absurd trivial hr
    | update c id changes => cases c <;> exact h.elim
    | delete c id => cases c <;> exact h.elim
    | _ => exact absurd trivial hr
  | _ => exact absurd trivial hr

theorem keeps_untaken : looking.Keeps Request.IsQuiet Untaken :=
  Setting.keeps_ofPast (fun _ _ => looksFirst_of_isQuiet) fun _ _ _ hr h =>
    h.concat fun name own d => ne_looked_of_isQuiet hr name own (some d)

theorem keeps_unwritten_untaken :
    looking.Keeps Request.IsQuiet fun es => Unwritten es ∧ Untaken es :=
  Setting.keeps_ofPast (fun _ _ => looksFirst_of_isQuiet) fun _ _ _ hr h =>
    ⟨h.1.concat hr.sparesFlows,
      h.2.concat fun name own d => ne_looked_of_isQuiet hr name own (some d)⟩

/-- Nothing is written, no name was found taken, and a new name, if there is one, was found free. -/
def Looked (name : Option String) (own : Option ObjectId) (es : List Exchange) : Prop :=
  (Unwritten es ∧ Untaken es) ∧ ∀ t ∈ name, Exchange.looked t own none ∈ es

theorem keeps_looked (name : Option String) (own : Option ObjectId) :
    looking.Keeps Request.IsQuiet (Looked name own) :=
  Setting.keeps_ofPast (fun _ _ => looksFirst_of_isQuiet) fun _ _ _ hr h =>
    ⟨⟨h.1.1.concat hr.sparesFlows,
      h.1.2.concat fun name own d => ne_looked_of_isQuiet hr name own (some d)⟩,
      fun t ht => List.mem_append_left _ (h.2 t ht)⟩

theorem keeps_taken (d : Document) : looking.Keeps Request.IsQuiet (Taken d) := by
  refine Setting.keeps_ofPast (fun _ _ => looksFirst_of_isQuiet) fun es r x hr h => ?_
  refine ⟨h.unwritten.concat hr.sparesFlows, fun name own d' hmem => ?_⟩
  rcases List.mem_append.1 hmem with hmem | hmem
  · exact h.found name own d' hmem
  · exact absurd (List.mem_singleton.1 hmem).symm (ne_looked_of_isQuiet hr name own (some d'))

/-! ## What a request asks -/

/-- A search that is not by name leaves everything open. -/
theorem findOne_upholds {filter : List Clause}
    {k : Except StoreError (Option Document) → Program α}
    {Q : List Exchange → Outcome α → Prop} (h : Unwritten es ∧ Untaken es)
    (hfilter : ∀ name rest, filter ≠ .textIs "name" name :: rest)
    (hk : ∀ x es, Unwritten es ∧ Untaken es → (k x).Upholds looking es Q) :
    (Program.query (.findOne .flows filter) >>= k).Upholds looking es Q := by
  refine ⟨h.1, fun x es' hes' => hk x es' ?_⟩
  rw [show es' = es ++ [⟨.query (.findOne .flows filter), x⟩] from hes']
  refine ⟨h.1.concat trivial, h.2.concat fun name own d heq => ?_⟩
  have hrequest := congrArg Exchange.request heq
  simp only [Exchange.looked, Request.query.injEq, Query.findOne.injEq] at hrequest
  exact hfilter _ _ hrequest.2

/-- How a search by name may come out: it finds the name free, it finds a flow, or it fails. -/
inductive LookedUp (name : String) (own : Option ObjectId) (es : List Exchange) :
    Outcome (Option Flow) → Prop
  | free (hes : (Unwritten es ∧ Untaken es) ∧ Exchange.looked name own none ∈ es) :
      LookedUp name own es (.done none)
  | taken {d : Document} {flow : Flow} (hes : Taken d es) : LookedUp name own es (.done (some flow))
  | unread {d : Document} {f : Failure} (hes : Taken d es) (hd : d.IsNoFlow) :
      LookedUp name own es (.failed f)
  | failed {f : Failure} (hes : Unwritten es ∧ Untaken es) : LookedUp name own es (.failed f)

theorem getFlowByName_looks (name : String) (own : Option String) (h : Unwritten es ∧ Untaken es) :
    (Repository.getFlowByName name own).Upholds looking es fun es o =>
      LookedUp name (own.bind ObjectId.ofText?) es o := by
  unfold Repository.getFlowByName
  refine (connect_upholds keeps_unwritten_untaken h).bind ?_ ?_ ?_
  · rintro es - ⟨h, -⟩
    refine ⟨h.1, fun x es' hes' => ?_⟩
    obtain rfl : es' = es ++ [(⟨.query (.findOne .flows (Repository.nameFilter name own)), x⟩ :
      Exchange)] := hes'
    have hunwritten := h.1.concat
      (e := ⟨.query (.findOne .flows (Repository.nameFilter name own)), x⟩) trivial
    -- nothing was found before, so what was found this search has found
    have hfound : ∀ name' own' d, Exchange.looked name' own' (some d) ∈
        es ++ [⟨.query (.findOne .flows (Repository.nameFilter name own)), x⟩] →
        x = .ok (some d) := by
      intro name' own' d hmem
      rcases List.mem_append.1 hmem with hmem | hmem
      · exact absurd hmem (h.2 name' own' d)
      · have hsame : some d = Exchange.foundFlow? ⟨.query (.findOne .flows _), x⟩ :=
          congrArg Exchange.foundFlow? (List.mem_singleton.1 hmem)
        cases x with
        | error e => cases hsame
        | ok found => rw [hsame]; rfl
    rcases x with e | (_ | d)
    · have huntaken : Untaken _ := fun name' own' d hmem => nomatch hfound name' own' d hmem
      refine (fail_upholds keeps_unwritten_untaken _ e ⟨hunwritten, huntaken⟩).mono ?_
      rintro es o ⟨h, f, rfl⟩
      exact .failed h
    · have huntaken : Untaken _ := fun name' own' d hmem => nomatch hfound name' own' d hmem
      exact .free ⟨⟨hunwritten, huntaken⟩, List.mem_append_right _ (List.mem_singleton.2 rfl)⟩
    · have htaken : Taken d _ := ⟨hunwritten, fun name' own' d' hmem =>
        (Option.some.inj (Except.ok.inj (hfound name' own' d' hmem))).symm⟩
      have hclock := keeps_taken d _ .clock trivial htaken
      refine upholds_now_bind.2 ⟨hclock.1, fun now es' hes' => ?_⟩
      have htaken' := hclock.2 now es' hes'
      cases hread : Repository.flowOf now d with
      | ok flow => exact .taken htaken'
      | error e =>
        refine (fail_upholds (keeps_taken d) _ e htaken').mono ?_
        rintro es o ⟨h, f, rfl⟩
        exact .unread h ⟨now, e, hread⟩
  · rintro es f ⟨h, -⟩
    exact .failed h
  · rintro es ⟨h, ho | ⟨-, f, ho⟩⟩ <;> cases ho

/-- How the requirement of a free name may come out. -/
inductive Required (name : String) (own : Option ObjectId) (es : List Exchange) :
    Outcome Unit → Prop
  | free (hes : (Unwritten es ∧ Untaken es) ∧ Exchange.looked name own none ∈ es) :
      Required name own es (.done ())
  | taken {d : Document} (hes : Taken d es) : Required name own es (.failed .nameTaken)
  | unread {d : Document} {f : Failure} (hes : Taken d es) (hd : d.IsNoFlow) :
      Required name own es (.failed f)
  | failed {f : Failure} (hes : Unwritten es ∧ Untaken es) : Required name own es (.failed f)

theorem requireFreeName_looks (name : String) (own : Option String)
    (h : Unwritten es ∧ Untaken es) :
    (Editor.requireFreeName name own).Upholds looking es fun es o =>
      Required name (own.bind ObjectId.ofText?) es o := by
  refine (getFlowByName_looks name own h).bind ?_ ?_ ?_
  · intro es found h
    cases h with
    | free hes => exact .free hes
    | taken hes => exact .taken hes
  · intro es f h
    cases h with
    | unread hes hd => exact .unread hes hd
    | failed hes => exact .failed hes
  · intro es h
    cases h

/-- How a request fails: before it found its name taken, or after. -/
inductive Fails (es : List Exchange) (f : Failure) : Prop
  | open (hes : Untaken es)
  | taken {d : Document} (hes : Taken d es) (hf : f = .nameTaken ∨ d.IsNoFlow)

theorem Required.fails {name : String} {own : Option ObjectId} {f : Failure}
    (h : Required name own es (.failed f)) : Fails es f := by
  cases h with
  | taken hes => exact .taken hes (Or.inl rfl)
  | unread hes hd => exact .taken hes (Or.inr hd)
  | failed hes => exact .open hes.2

/-- How a request ends: well, without having found its name taken, or not. -/
inductive Concludes (es : List Exchange) : Outcome Flow → Prop
  | done {flow : Flow} (hes : Untaken es) : Concludes es (.done flow)
  | failed {f : Failure} (hes : Fails es f) : Concludes es (.failed f)

theorem endsRefused_of_untaken (h : Untaken es) (o : Outcome Flow) : EndsRefused es o :=
  fun name own d hmem => absurd hmem (h name own d)

theorem Taken.endsRefused (h : Taken d es) {f : Failure} (hf : f = .nameTaken ∨ d.IsNoFlow) :
    EndsRefused es (.failed f) := by
  intro name own d' hmem
  obtain rfl := h.found name own d' hmem
  refine ⟨h.unwritten, hf.imp (fun heq => by rw [heq]) fun hd => ⟨hd, f, rfl⟩⟩

/-- What a request comes to is reported without another look at the store. -/
theorem foreseen_looks {p : Program Flow} (speaker : String) (activity : Activity)
    (h : p.Upholds looking es Concludes) :
    (Editor.foreseen speaker activity p).Upholds looking es EndsRefused := by
  have hattempt : p.attempt.Upholds looking es fun es o =>
      ∃ x, o = .done x ∧ Concludes es (outcomeOf x) :=
    h.attempt (fun es flow h => ⟨.ok flow, rfl, h⟩) (fun es f h => ⟨.error f, rfl, h⟩)
      fun es h => nomatch h
  refine hattempt.bind_done fun es x h => ?_
  match x, h with
  | .ok flow, .done hes => exact endsRefused_of_untaken hes _
  | .error f, .failed (.open hes) =>
    show Upholds looking (if f.isOfService = true then _ else _) es EndsRefused
    split
    · exact endsRefused_of_untaken hes _
    · exact (report_upholds keeps_untaken _ hes).bind_unit fun es hes =>
        endsRefused_of_untaken hes _
  | .error f, .failed (.taken hes (.inl hf)) =>
    subst hf
    exact hes.endsRefused (Or.inl rfl)
  | .error f, .failed (.taken hes (.inr hd)) =>
    show Upholds looking (if f.isOfService = true then _ else _) es EndsRefused
    split
    · exact hes.endsRefused (Or.inr hd)
    · exact (report_upholds (keeps_taken _) _ hes).bind_unit fun es hes =>
        hes.endsRefused (Or.inr hd)

/-- A flow that was found, or made or changed, is read without another look at the store. -/
theorem flowOf?_looks {I : List Exchange → Prop} (hquiet : looking.Keeps Request.IsQuiet I)
    (operation : String) (found : Option Document) (h : I es) :
    (Repository.flowOf? operation found).Upholds looking es fun es o =>
      I es ∧ o ≠ .cancelled := by
  cases found with
  | none => exact ⟨h, nofun⟩
  | some d =>
    have hclock := hquiet es .clock trivial h
    refine upholds_now_bind.2 ⟨hclock.1, fun now es' hes' => ?_⟩
    have h' := hclock.2 now es' hes'
    cases Repository.flowOf now d with
    | ok flow => exact ⟨h', nofun⟩
    | error e =>
      refine (fail_upholds hquiet operation e h').mono ?_
      rintro es o ⟨hes, f, rfl⟩
      exact ⟨hes, nofun⟩

/-- A new flow is written after its name was found free. -/
theorem createFlow_looks {flow : Flow}
    (h : Looked (some flow.name) none es) :
    (Repository.createFlow flow).Upholds looking es fun es o => Untaken es ∧ o ≠ .cancelled := by
  have hname : flow.document.get? "name" = some (.text flow.name) := by
    simp [Flow.document, Fields.get?_cons]
  unfold Repository.createFlow
  refine (connect_upholds (keeps_looked _ _) h).bind ?_ (fun es f h => ⟨h.1.1.2, by rintro ⟨⟩⟩) ?_
  · rintro es - ⟨⟨hes, hlooked⟩, -⟩
    refine ⟨⟨hes.1, hes.2, _, hname, hlooked _ rfl⟩, fun x es' hes' => ?_⟩
    have huntaken : Untaken es' := by
      rw [show es' = es ++ [⟨.query (.insert .flows flow.document), x⟩] from hes']
      exact hes.2.concat fun name own d heq => by cases congrArg Exchange.request heq
    cases x with
    | ok id => exact ⟨huntaken, by rintro ⟨⟩⟩
    | error e =>
      refine (fail_upholds keeps_untaken _ e huntaken).mono ?_
      rintro es o ⟨hes, f, rfl⟩
      exact ⟨hes, by rintro ⟨⟩⟩
  · rintro es ⟨-, ho | ⟨-, f, ho⟩⟩ <;> cases ho

/-- A draft is written after its name was found free. -/
theorem Editor.create_looksFirst (draft : Draft) :
    (Editor.create draft).Upholds looking [] EndsRefused := by
  have hstart : Unwritten [] ∧ Untaken [] :=
    ⟨fun e he => absurd he List.not_mem_nil, fun name own d => List.not_mem_nil⟩
  unfold Editor.create
  generalize Text.trim (draft.name.getD "") = name
  refine foreseen_looks _ _ ?_
  dsimp only
  split
  · exact .failed (.open hstart.2)
  split
  · exact .failed (.open hstart.2)
  refine (requireFreeName_looks name none hstart).bind ?_ (fun es f h => .failed h.fails)
    fun es h => nomatch h
  rintro es ⟨⟩ (⟨hes⟩)
  have hlooked : Looked (some name) none es := ⟨hes.1, fun t ht => by cases ht; exact hes.2⟩
  have hclock := keeps_looked (some name) none es .clock trivial hlooked
  refine ⟨hclock.1, fun now es hes => ?_⟩
  refine (createFlow_looks (hclock.2 now es hes)).bind ?_ (fun es f h => .failed (.open h.1))
    fun es h => absurd rfl h.2
  rintro es flow ⟨hes, -⟩
  exact (report_upholds keeps_untaken _ hes).bind_unit fun es hes => .done hes

/-- A flow that is looked up by its id is no flow that was found by a name. -/
theorem existing_looks (id : String) (h : Unwritten es ∧ Untaken es) :
    (Editor.existing id).Upholds looking es fun es o => (Unwritten es ∧ Untaken es) ∧
      o ≠ .cancelled ∧ ∀ flow, o = .done flow → ∃ oid, ObjectId.ofText? id = some oid := by
  unfold Editor.existing
  cases hid : ObjectId.ofText? id with
  | none =>
    unfold Repository.getFlow
    rw [hid]
    exact ⟨h, by rintro ⟨⟩, by rintro flow ⟨⟩⟩
  | some oid =>
    have hfound : (Repository.searchFlow "get_flow" [.idIs oid]).Upholds looking es fun es o =>
        (Unwritten es ∧ Untaken es) ∧ o ≠ .cancelled := by
      refine (connect_upholds keeps_unwritten_untaken h).bind ?_
        (fun es f h => ⟨h.1, by rintro ⟨⟩⟩) ?_
      · rintro es - ⟨h, -⟩
        refine findOne_upholds h (by rintro name rest ⟨⟩) fun x es h => ?_
        cases x with
        | ok d => exact flowOf?_looks keeps_unwritten_untaken _ d h
        | error e =>
          refine (fail_upholds keeps_unwritten_untaken _ e h).mono ?_
          rintro es o ⟨hes, f, rfl⟩
          exact ⟨hes, by rintro ⟨⟩⟩
      · rintro es ⟨-, ho | ⟨-, f, ho⟩⟩ <;> cases ho
    rw [Repository.getFlow_eq hid]
    refine hfound.bind ?_ (fun es f h => ⟨h.1, by rintro ⟨⟩, by rintro flow ⟨⟩⟩)
      fun es h => absurd rfl h.2
    rintro es (_ | flow) ⟨hes, -⟩
    · exact ⟨hes, by rintro ⟨⟩, by rintro flow ⟨⟩⟩
    · exact ⟨hes, by rintro ⟨⟩, fun _ _ => ⟨oid, rfl⟩⟩

/-- What a revision provides for the name of a flow: nothing, or a name that was found free. -/
inductive NameFound (own : Option ObjectId) (es : List Exchange) : Outcome Fields → Prop
  | found (name : Option String) (hes : Unwritten es ∧ Untaken es)
      (hname : ∀ t ∈ name, Exchange.looked t own none ∈ es) :
      NameFound own es (.done (name.map fun t => ("name", Value.text t)).toList)
  | failed {f : Failure} (hes : Fails es f) : NameFound own es (.failed f)

theorem nameChange_looks (id : String) (given : Option String) (h : Unwritten es ∧ Untaken es) :
    (Editor.nameChange id given).Upholds looking es (NameFound (ObjectId.ofText? id)) := by
  cases given with
  | none => exact .found none h nofun
  | some given =>
    dsimp only [Editor.nameChange]
    generalize Text.trim given = name
    split
    · exact .failed (.open h.2)
    refine (requireFreeName_looks name (some id) h).bind ?_ (fun es f h => .failed h.fails)
      fun es h => nomatch h
    rintro es ⟨⟩ (⟨hes⟩)
    refine .found (some name) hes.1 fun t ht => ?_
    cases ht
    exact hes.2

/-- The changes of a flow are written after its new name was found free. -/
theorem updateFlow_looks {id : String} {oid : ObjectId} (hid : ObjectId.ofText? id = some oid)
    {name : Option String} (nodes : Option (List Node)) (edges : Option (List Edge))
    (h : Looked name (some oid) es) :
    (Repository.updateFlow id (revisedFields name nodes edges)).Upholds looking es fun es o =>
      Untaken es ∧ o ≠ .cancelled := by
  have hquiet := keeps_looked name (some oid)
  unfold Repository.updateFlow
  rw [hid]
  refine (connect_upholds hquiet h).bind ?_ (fun es f h => ⟨h.1.1.2, nofun⟩) ?_
  · rintro es - ⟨h, -⟩
    have hclock := hquiet es .clock trivial h
    refine ⟨hclock.1, fun now es hes => ?_⟩
    obtain ⟨hes, hname⟩ := hclock.2 now es hes
    refine ⟨⟨hes.1, hes.2, name, nodes, edges, now, rfl, hname⟩, fun x es' hes' => ?_⟩
    have huntaken : Untaken es' := by
      rw [show es' = es ++ [⟨.query (.change .flows oid _), x⟩] from hes']
      exact hes.2.concat fun name own d heq => nomatch congrArg Exchange.request heq
    match x with
    | .ok d => exact flowOf?_looks keeps_untaken _ d huntaken
    | .error e =>
      refine (fail_upholds keeps_untaken _ e huntaken).mono ?_
      rintro es o ⟨hes, f, rfl⟩
      exact ⟨hes, nofun⟩
  · rintro es ⟨-, ho | ⟨-, f, ho⟩⟩ <;> cases ho

/-- A revision is written after the name that it provides was found free. -/
theorem Editor.update_looksFirst (id : String) (revision : Revision) :
    (Editor.update id revision).Upholds looking [] EndsRefused := by
  have hstart : Unwritten [] ∧ Untaken [] :=
    ⟨fun e he => absurd he List.not_mem_nil, fun name own d => List.not_mem_nil⟩
  rw [Editor.update_eq]
  refine foreseen_looks _ _ ?_
  refine (existing_looks id hstart).bind ?_ (fun es f h => .failed (.open h.1.2))
    fun es h => absurd rfl h.2.1
  rintro es flow ⟨hes, -, hexists⟩
  obtain ⟨oid, hid⟩ := hexists flow rfl
  refine (nameChange_looks id revision.name hes).bind ?_ ?_ fun es h => nomatch h
  · intro es fields hnamed
    rw [hid] at hnamed
    obtain ⟨name, hes, hname⟩ := hnamed
    have hwrite : ∀ nodes, (Editor.writeChanges id flow (revisedFields name nodes
        revision.edges)).Upholds looking es Concludes := by
      intro nodes
      have hupdate := updateFlow_looks hid nodes revision.edges ⟨hes, hname⟩
      generalize revisedFields name nodes revision.edges = changes at hupdate ⊢
      cases changes with
      | nil => exact .done hes.2
      | cons change rest =>
        refine hupdate.bind ?_ (fun es f h => .failed (.open h.1)) fun es h => absurd rfl h.2
        rintro es (_ | saved) ⟨hes, -⟩
        · exact .failed (.open hes)
        · exact (report_upholds keeps_untaken _ hes).bind_unit fun es hes => .done hes
    match revision.nodes with
    | none => exact hwrite none
    | some [] => exact .failed (.open hes.2)
    | some (n :: ns) => exact hwrite (some (n :: ns))
  · rintro es f (_ | hes)
    exact .failed hes

/-! ## Requests together -/

/-- A request that gives a name to a flow. -/
inductive Submission where
  | create (draft : Draft)
  | update (id : String) (revision : Revision)

namespace Submission

/-- What is done about the request. -/
def program : Submission → Program Flow
  | create draft => Editor.create draft
  | update id revision => Editor.update id revision

section

-- the trimmed name is nothing that the order of the requests depends on
attribute [local irreducible] Text.trim

theorem looksFirst (s : Submission) : s.program.Upholds looking [] EndsRefused := by
  cases s with
  | create draft => exact Editor.create_looksFirst draft
  | update id revision => exact Editor.update_looksFirst id revision

end

end Submission

/-- Whatever else happens to a world, no flow is made or changed, and its faults raise errors. -/
structure World.LeavesFlows (w w' : World) : Prop where
  flows : w'.database.store.flows.documents.Sublist w.database.store.flows.documents
  raises : w.Raises → w'.Raises

/-- No two flows have the same name. -/
def Shelf.NamesDiffer (s : Shelf) : Prop :=
  ∀ d ∈ s.documents, ∀ d' ∈ s.documents, ∀ name : String, d.fields.get? "name" = some (.text name) →
    d'.fields.get? "name" = some (.text name) → d.id = d'.id

namespace Crowd

variable {ι : Type} {c c' : Crowd ι Flow} {first : Shelf} {past : List (ι × Exchange)}
  {id : ObjectId} {name : String}

/-- How a flow has come by its name: it had it from the first and every search for the name passed
over the flow, or a request that had found the name free gave it to the flow and every later search
passed over it. -/
inductive Named (first : Shelf) (past : List (ι × Exchange)) (id : ObjectId) (name : String) : Prop
  | initially {d : Document} (hd : d ∈ first.documents) (hid : d.id = id)
      (hname : d.fields.get? "name" = some (.text name))
      (hpassed : ∀ i own, (i, Exchange.looked name own none) ∈ past → own = some id)
  | claimed {before after : List (ι × Exchange)} {i : ι} {e : Exchange} {own : Option ObjectId}
      (hpast : past = before ++ (i, e) :: after) (hclaim : e.Claims name id)
      (hown : ∀ id', own = some id' → id' = id)
      (hlooked : (i, Exchange.looked name own none) ∈ before)
      (hpassed : ∀ j own, (j, Exchange.looked name own none) ∈ after → own = some id)

/-- A later exchange leaves open how a flow has come by its name, if it is no search that passes
over another flow. -/
theorem Named.later (h : Named first past id name) {j : ι} {e : Exchange}
    (he : ∀ own, e = Exchange.looked name own none → own = some id) :
    Named first (past ++ [(j, e)]) id name := by
  have hlast : ∀ (before : List (ι × Exchange)),
      (∀ i own, (i, Exchange.looked name own none) ∈ before → own = some id) →
      ∀ i own, (i, Exchange.looked name own none) ∈ before ++ [(j, e)] → own = some id := by
    intro before hbefore i own hmem
    rcases List.mem_append.1 hmem with hmem | hmem
    · exact hbefore i own hmem
    · exact he own (congrArg Prod.snd (List.mem_singleton.1 hmem)).symm
  cases h with
  | initially hd hid hname hpassed => exact .initially hd hid hname (hlast _ hpassed)
  | claimed hpast hclaim hown hlooked hpassed =>
    refine .claimed ?_ hclaim hown hlooked (hlast _ hpassed)
    rw [hpast, List.append_assoc, List.cons_append]

variable [DecidableEq ι]

/-- What holds of requests about names together: each flow has come by its name, and no request has
written twice. -/
structure IsRivalry (first : Shelf) (c : Crowd ι Flow) : Prop where
  raises : c.world.Raises
  ids : (c.world.database.store.flows.documents.map Document.id).Nodup
  named : ∀ d ∈ c.world.database.store.flows.documents, ∀ name,
    d.fields.get? "name" = some (.text name) → Named first c.past d.id name
  once : ∀ i, ∀ e ∈ c.own i, ∀ e' ∈ c.own i, ¬ e.request.SparesFlows → ¬ e'.request.SparesFlows →
    e = e'

theorem isRivalry_gathered (programs : ι → Program Flow) {w : World} (hraises : w.Raises)
    (hids : (w.database.store.flows.documents.map Document.id).Nodup) :
    IsRivalry w.database.store.flows (gathered programs w) :=
  ⟨hraises, hids, fun _ hd _ hname => .initially hd rfl hname fun _ _ hmem =>
    absurd hmem List.not_mem_nil, fun _ _ he => absurd (mem_own.1 he) List.not_mem_nil⟩

variable {i : ι} {r : Request} {next : r.Answer → Program Flow}

omit [DecidableEq ι] in
/-- A search that passes over one flow and finds none has passed over the flow with the name. -/
theorem looked_passes {w : World} (hw : w.Raises) {own : Option ObjectId} {d : Document}
    (hd : d ∈ w.database.store.flows.documents) (hname : d.fields.get? "name" = some (.text name))
    (hlooked : (⟨r, (w.answer r).1⟩ : Exchange) = Exchange.looked name own none) :
    own = some d.id := by
  cases (congrArg Exchange.request hlooked : r = _)
  obtain ⟨-, ⟨y, hy, hx⟩ | ⟨⟨e, hx⟩, -⟩⟩ := hw.query
    (.findOne .flows (.textIs "name" name :: (own.map Clause.idIsNot).toList))
  · rw [hx] at hlooked
    obtain rfl : y = none := by simpa [Exchange.looked] using hlooked
    by_contra hown
    refine Shelf.isFree_of_findOne_idIsNot ?_ d hd (Ne.symm hown) hname
    have hfilter : (Clause.textIs "name" name :: (own.map Clause.idIsNot).toList).mapM
        Store.storedClause? = .ok (.textIs "name" name :: (own.map Clause.idIsNot).toList) := by
      cases own <;> rfl
    simp only [Store.answer, hfilter] at hy
    exact congrArg Prod.fst (Except.ok.inj hy)
  · rw [hx] at hlooked
    simp [Exchange.looked] at hlooked

/-- A flow that an exchange leaves as it was has come by its name as before. -/
theorem IsRivalry.named_asked (h : IsRivalry first c) {d : Document}
    (hd : d ∈ c.world.database.store.flows.documents)
    (hname : d.fields.get? "name" = some (.text name)) :
    Named first (c.asked i r next).past d.id name :=
  (h.named d hd name hname).later fun _ hlooked => looked_passes h.raises hd hname hlooked

/-- A name that a request has found free is claimed by the write that follows. -/
theorem named_of_claims {own : Option ObjectId} {e : Exchange}
    (hlooked : Exchange.looked name own none ∈ c.own i) (hclaim : e.Claims name id)
    (hown : ∀ id', own = some id' → id' = id) : Named first (c.past ++ [(i, e)]) id name :=
  .claimed rfl hclaim hown (mem_own.1 hlooked) fun _ _ hmem => absurd hmem List.not_mem_nil

/-- A flow that is created goes by the name that was found free. -/
theorem named_inserted {fields : Fields} (oid : ObjectId)
    (hlooks : LooksFirst (c.own i) (.query (.insert .flows fields)))
    (hname : Fields.get? (Value.keptFields fields) "name" = some (.text name)) :
    Named first (c.past ++ [(i, ⟨.query (.insert .flows fields), .ok oid⟩)]) oid name := by
  obtain ⟨-, -, name', hfields, hlooked⟩ := hlooks
  have hname' : fields.get? "name" = some (.text name) := Store.get?_keptFields_text.1 hname
  obtain rfl : name' = name := by simpa [hfields] using hname'
  exact named_of_claims hlooked (.made hfields) (by rintro id ⟨⟩)

/-- A flow that is changed goes by the name that it had, or by one that was found free but for the
flow itself. -/
theorem named_changed {d : Document} {changes : Fields} (y : Option Document)
    (hlooks : LooksFirst (c.own i) (.query (.change .flows d.id changes)))
    (hname : (d.updated (Value.keptFields changes)).fields.get? "name" = some (.text name)) :
    d.fields.get? "name" = some (.text name) ∨
      Named first (c.past ++ [(i, ⟨.query (.change .flows d.id changes), .ok y⟩)]) d.id name := by
  obtain ⟨-, -, given, nodes, edges, now, rfl, hlooked⟩ := hlooks
  rw [Document.updated,
    (Fields.HoldsFlow.get?_merge_revised d.fields given nodes edges now).1] at hname
  cases given with
  | none => exact Or.inl hname
  | some t =>
    obtain rfl : t = name := by simpa using hname
    exact Or.inr (named_of_claims (hlooked t rfl) (.renamed nodes edges now y)
      fun id' hid' => (Option.some.inj hid').symm)

/-- A request that writes is the first of its program to do so. -/
theorem IsRivalry.once_asked (h : IsRivalry first c) (hlooks : LooksFirst (c.own i) r) (j : ι) :
    ∀ e ∈ (c.asked i r next).own j, ∀ e' ∈ (c.asked i r next).own j, ¬ e.request.SparesFlows →
      ¬ e'.request.SparesFlows → e = e' := by
  intro e he e' he' hwrites hwrites'
  rcases mem_own_asked.1 he with hbefore | ⟨rfl, rfl⟩
  · rcases mem_own_asked.1 he' with hbefore' | ⟨rfl, rfl⟩
    · exact h.once j e hbefore e' hbefore' hwrites hwrites'
    · exact absurd (hlooks.unwritten hwrites' e hbefore) hwrites
  · rcases mem_own_asked.1 he' with hbefore' | ⟨-, rfl⟩
    · exact absurd (hlooks.unwritten hwrites e' hbefore') hwrites'
    · rfl

/-- After a query took effect, every flow has come by its name. -/
theorem IsRivalry.named_query (h : IsRivalry first c) {q : Query} {y : q.Answer} {store : Store}
    {next : Except StoreError q.Answer → Program Flow} (hlooks : LooksFirst (c.own i) (.query q))
    (hy : c.world.database.store.answer q = .ok (y, store))
    (hx : (c.world.answer (.query q)).1 = .ok y) :
    (store.flows.documents.map Document.id).Nodup ∧ ∀ d ∈ store.flows.documents, ∀ name,
      d.fields.get? "name" = some (.text name) →
        Named first (c.asked i (.query q) next).past d.id name := by
  have hpast : (c.asked i (.query q) next).past = c.past ++ [(i, ⟨.query q, .ok y⟩)] := by
    rw [Crowd.asked, hx]
  cases Store.answer_shelf .flows hy with
  | same heq =>
    rw [show store.flows = _ from heq]
    exact ⟨h.ids, fun d hd name hname => h.named_asked hd hname⟩
  | inserted fields heq hq =>
    subst hq
    obtain ⟨rfl, -⟩ := Store.answer_insert hy
    rw [show store.flows = _ from heq]
    refine ⟨?_, fun d hd name hname => ?_⟩
    · rw [List.map_append, List.map_singleton]
      refine List.nodup_append.2 ⟨h.ids, List.nodup_singleton _, fun id hid id' hid' heq => ?_⟩
      obtain ⟨d, hd, rfl⟩ := List.mem_map.1 hid
      exact Store.id_ne_fresh hd (heq.trans (List.mem_singleton.1 hid'))
    · rcases List.mem_append.1 hd with hd | hd
      · exact h.named_asked hd hname
      · obtain rfl := List.mem_singleton.1 hd
        rw [hpast]
        exact named_inserted _ hlooks hname
  | changed id changes heq hq =>
    obtain rfl : q = .change .flows id changes := by
      rcases hq with rfl | rfl
      · exact hlooks.elim
      · rfl
    rw [show store.flows = _ from heq]
    refine ⟨by rw [Shelf.map_id_change]; exact h.ids, fun d' hd' name hname => ?_⟩
    obtain ⟨d, hd, hid, ⟨rfl, rfl⟩ | ⟨-, rfl⟩⟩ := Shelf.mem_change hd'
    · rcases named_changed y hlooks hname with hname | hnamed
      · exact h.named_asked (d := d) hd hname
      · rwa [hpast]
    · exact h.named_asked hd hname
  | deleted id heq hq =>
    subst hq
    exact hlooks.elim

/-- A request that leaves the store as it is leaves everything as it is. -/
theorem IsRivalry.asked_same (h : IsRivalry first c) (hlooks : LooksFirst (c.own i) r)
    (hraises : (c.world.answer r).2.Raises)
    (hstore : (c.world.answer r).2.database.store = c.world.database.store) :
    IsRivalry first (c.asked i r next) := by
  have hflows : (c.asked i r next).world.database.store = c.world.database.store := hstore
  refine ⟨hraises, by rw [hflows]; exact h.ids, ?_, h.once_asked hlooks⟩
  rw [hflows]
  exact fun d hd name hname => h.named_asked hd hname

/-- What holds of requests about names holds after a request of one of them was answered. -/
theorem IsRivalry.asked (h : IsRivalry first c) (hlooks : LooksFirst (c.own i) r) :
    IsRivalry first (c.asked i r next) := by
  by_cases hquery : ∃ q, r = .query q
  · obtain ⟨q, rfl⟩ := hquery
    obtain ⟨hraises, ⟨y, hy, hx⟩ | ⟨-, hstore⟩⟩ := h.raises.query q
    · obtain ⟨hids, hnamed⟩ := h.named_query hlooks hy hx
      exact ⟨hraises, hids, hnamed, h.once_asked hlooks⟩
    · exact h.asked_same hlooks hraises hstore
  · obtain ⟨hraises, hstore⟩ := h.raises.answer r fun q hq => hquery ⟨q, hq⟩
    exact h.asked_same hlooks hraises hstore

/-- What holds of requests about names goes on to hold. -/
theorem IsRivalry.step {Q : List Exchange → Outcome Flow → Prop} (h : IsRivalry first c)
    (hconducted : c.IsConducted LooksFirst Q) (hstep : Step World.LeavesFlows c c') :
    IsRivalry first c' := by
  cases hstep with
  | @turn i r next hleft => exact h.asked (hconducted.asks hleft)
  | aside haside =>
    obtain ⟨hflows, hraises⟩ := haside
    exact ⟨hraises h.raises, h.ids.sublist (hflows.map Document.id),
      fun d hd => h.named d (hflows.subset hd), h.once⟩

theorem isConducted_gathered (submissions : ι → Submission) (w : World) :
    (gathered (fun i => (submissions i).program) w).IsConducted LooksFirst EndsRefused :=
  fun i => (submissions i).looksFirst

theorem IsRivalry.reaches {Q : List Exchange → Outcome Flow → Prop} (h : IsRivalry first c)
    (hconducted : c.IsConducted LooksFirst Q) (hreaches : Reaches World.LeavesFlows c c') :
    IsRivalry first c' := by
  induction hreaches with
  | refl => exact h
  | tail hbefore hstep ih => exact ih.step (Reaches.isConducted hbefore hconducted) hstep

omit [DecidableEq ι] in
/-- A search that did not pass over a flow came before the flow was given its name. -/
theorem looked_before {j : ι} {before after : List (ι × Exchange)} {e : Exchange}
    {own : Option ObjectId}
    (hpast : past = before ++ (i, e) :: after) (hclaim : e.Claims name id)
    (hpassed : ∀ j own, (j, Exchange.looked name own none) ∈ after → own = some id)
    (hlooked : (j, Exchange.looked name own none) ∈ past) (hown : own ≠ some id) :
    [(j, Exchange.looked name own none), (i, e)].Sublist past := by
  rw [hpast] at hlooked ⊢
  rcases List.mem_append.1 hlooked with hbefore | hafter
  · exact (List.singleton_sublist.2 hbefore).append (List.singleton_sublist.2 List.mem_cons_self)
  · exfalso
    rcases List.mem_cons.1 hafter with heq | hafter
    · refine hclaim.not_sparesFlows ?_
      rw [← (Prod.mk.inj heq).2]
      exact trivial
    · exact hown (hpassed j own hafter)

/-- Two flows of one name were named by two requests, each of which had found the name free before
the other wrote it. -/
theorem IsRivalry.overlap (h : IsRivalry first c) (hfirst : first.NamesDiffer) {d d' : Document}
    (hd : d ∈ c.world.database.store.flows.documents)
    (hd' : d' ∈ c.world.database.store.flows.documents)
    (hname : d.fields.get? "name" = some (.text name))
    (hname' : d'.fields.get? "name" = some (.text name)) (hne : d.id ≠ d'.id) :
    ∃ i j e e' own own', i ≠ j ∧ e.Claims name d.id ∧ e'.Claims name d'.id ∧
      [(i, Exchange.looked name own none), (j, e')].Sublist c.past ∧
      [(j, Exchange.looked name own' none), (i, e)].Sublist c.past := by
  have hnamed := h.named d hd name hname
  have hnamed' := h.named d' hd' name hname'
  cases hnamed with
  | initially hd₀ hid₀ hname₀ hpassed =>
    exfalso
    cases hnamed' with
    | initially hd₀' hid₀' hname₀' =>
      exact hne (hid₀ ▸ hid₀' ▸ hfirst _ hd₀ _ hd₀' name hname₀ hname₀')
    | @claimed before' after' j e' own' hpast' hclaim' hown' hlooked' =>
      -- the search for the name passed over both flows, so the two are one
      refine hne (hown' d.id (hpassed j own' ?_))
      rw [hpast']
      exact List.mem_append_left _ hlooked'
  | @claimed before after i e own hpast hclaim hown hlooked hpassed =>
    have hlooked₁ : (i, Exchange.looked name own none) ∈ c.past := by
      rw [hpast]
      exact List.mem_append_left _ hlooked
    cases hnamed' with
    | initially hd₀' hid₀' hname₀' hpassed' =>
      exact absurd (hown d'.id (hpassed' _ _ hlooked₁)).symm hne
    | @claimed before' after' j e' own' hpast' hclaim' hown' hlooked' hpassed' =>
      have hlooked₂ : (j, Exchange.looked name own' none) ∈ c.past := by
        rw [hpast']
        exact List.mem_append_left _ hlooked'
      refine ⟨i, j, e, e', own, own', ?_, hclaim, hclaim',
        looked_before hpast' hclaim' hpassed' hlooked₁ fun heq => hne (hown _ heq).symm,
        looked_before hpast hclaim hpassed hlooked₂ fun heq => hne (hown' _ heq)⟩
      -- one request writes once
      rintro rfl
      have he : e ∈ c.own i := mem_own.2 (by simp [hpast])
      have he' : e' ∈ c.own i := mem_own.2 (by simp [hpast'])
      obtain rfl := h.once i e he e' he' hclaim.not_sparesFlows hclaim'.not_sparesFlows
      exact hne (hclaim.eq hclaim')

/-- Of flows with different names two come to share one only by two requests that overlap, each of
which has found the name free before the other wrote it; and a request that has found its name taken
ends refused for that reason, or it fails since the flow that it found does not read, and has
written nothing. -/
theorem shared_name_overlaps (submissions : ι → Submission) {w : World} (hraises : w.Raises)
    (hids : (w.database.store.flows.documents.map Document.id).Nodup)
    (hnames : w.database.store.flows.NamesDiffer)
    (hreaches : Reaches World.LeavesFlows (gathered (fun i => (submissions i).program) w) c) :
    (∀ d ∈ c.world.database.store.flows.documents, ∀ d' ∈ c.world.database.store.flows.documents,
      ∀ name : String, d.fields.get? "name" = some (.text name) →
        d'.fields.get? "name" = some (.text name) → d.id ≠ d'.id →
        ∃ i j e e' own own', i ≠ j ∧ e.Claims name d.id ∧ e'.Claims name d'.id ∧
          [(i, Exchange.looked name own none), (j, e')].Sublist c.past ∧
          [(j, Exchange.looked name own' none), (i, e)].Sublist c.past) ∧
    ∀ i o, (c.left i).end? = some o → EndsRefused (c.own i) o := by
  have hconducted := isConducted_gathered submissions w
  have hrivalry := (isRivalry_gathered _ hraises hids).reaches hconducted hreaches
  refine ⟨fun d hd d' hd' name hname hname' hne => hrivalry.overlap hnames hd hd' hname hname' hne,
    fun i o hend => ?_⟩
  have hupholds := hreaches.isConducted hconducted i
  cases hleft : c.left i with
  | ask r next => simp [hleft, Program.end?] at hend
  | _ =>
    simp only [hleft, Program.end?, Option.some.injEq] at hend hupholds
    subst hend
    exact hupholds

/-- A flow that two clients ask for at once. -/
def twinDraft : Draft := ⟨some " Flow ", [⟨"start", none, .start [], []⟩], []⟩

/-- The first client has searched for the name when the second does everything that it does. -/
def twins : Crowd Bool Flow :=
  (gathered (fun _ => Submission.program (.create twinDraft)) World.emptyWorld).taken
    (List.replicate 3 false ++ List.replicate 6 true ++ List.replicate 4 false)

theorem twins_reaches : Reaches World.LeavesFlows
    (gathered (fun _ => Submission.program (.create twinDraft)) World.emptyWorld) twins :=
  reaches_taken _ _

/-- Two flows are there in the end, of one name. -/
theorem exists_twins : ∃ d ∈ twins.world.database.store.flows.documents,
    ∃ d' ∈ twins.world.database.store.flows.documents, d.fields.get? "name" = some (.text "Flow") ∧
      d'.fields.get? "name" = some (.text "Flow") ∧ d.id ≠ d'.id := by
  have hdocuments : twins.world.database.store.flows.documents.map
      (fun d => (d.id, (Clause.textIs "name" "Flow").holds d)) =
        [(Collection.flows.numbered 1, true), (Collection.flows.numbered 2, true)] := by
    decide +kernel
  obtain ⟨d, rest, hall, hd, hrest⟩ := List.map_eq_cons_iff.1 hdocuments
  obtain ⟨d', rest', hrest', hd', -⟩ := List.map_eq_cons_iff.1 hrest
  obtain ⟨hid, hname⟩ := Prod.mk.inj hd
  obtain ⟨hid', hname'⟩ := Prod.mk.inj hd'
  refine ⟨d, by simp [hall], d', by simp [hall, hrest'], Clause.holds_textIs_iff.1 hname,
    Clause.holds_textIs_iff.1 hname', fun heq => ?_⟩
  exact absurd (Collection.numbered_injective (hid.symm.trans (heq.trans hid'))) (by decide)

/-- No flow is there when two clients ask for the same one, both requests succeed, and two flows of
one name are there. -/
theorem twins_sharing : World.emptyWorld.database.store.flows.NamesDiffer ∧
    Reaches World.LeavesFlows
      (gathered (fun _ => Submission.program (.create twinDraft)) World.emptyWorld) twins ∧
    (∀ b, ∃ flow, (twins.left b).end? = some (.done flow)) ∧
    ¬ twins.world.database.store.flows.NamesDiffer := by
  refine ⟨fun d hd => absurd hd List.not_mem_nil, twins_reaches, fun b => ?_, fun hdiffer => ?_⟩
  · have hdone : ((twins.left b).end?.any fun o => o.result?.any Except.isOk) = true := by
      cases b <;> decide +kernel
    obtain ⟨o, hend, hok⟩ := (Option.any_eq_true _ _).1 hdone
    cases o with
    | done flow => exact ⟨flow, hend⟩
    | failed f => cases hok
    | cancelled => cases hok
  · obtain ⟨d, hd, d', hd', hname, hname', hne⟩ := exists_twins
    exact hne (hdiffer d hd d' hd' "Flow" hname hname')

/-- Each of the two requests has found the name free before the other made its flow. -/
theorem shared_name_overlaps_twins : World.emptyWorld.Raises ∧
    World.emptyWorld.database.store.flows.NamesDiffer ∧
    Reaches World.LeavesFlows
      (gathered (fun _ => Submission.program (.create twinDraft)) World.emptyWorld) twins ∧
    ∃ d ∈ twins.world.database.store.flows.documents,
      ∃ d' ∈ twins.world.database.store.flows.documents, d.id ≠ d'.id ∧
        ∃ i j e e' own own', i ≠ j ∧ e.Claims "Flow" d.id ∧ e'.Claims "Flow" d'.id ∧
          [(i, Exchange.looked "Flow" own none), (j, e')].Sublist twins.past ∧
          [(j, Exchange.looked "Flow" own' none), (i, e)].Sublist twins.past := by
  have hraises : World.emptyWorld.Raises := nofun
  have hnames : World.emptyWorld.database.store.flows.NamesDiffer :=
    fun d hd => absurd hd List.not_mem_nil
  refine ⟨hraises, hnames, twins_reaches, ?_⟩
  obtain ⟨d, hd, d', hd', hname, hname', hne⟩ := exists_twins
  have hoverlaps := shared_name_overlaps (fun _ => .create twinDraft) hraises List.nodup_nil hnames
    twins_reaches
  exact ⟨d, hd, d', hd', hne, hoverlaps.1 d hd d' hd' "Flow" hname hname' hne⟩

end Crowd

end Automation
