import Automation.Proofs.Store.Logbook

/-!
# What a run owns in the store

A run owns the record under its id and the audit entries that name it. Queries about these
(`Store.IsOfRun`) change nothing else in the store (`others_of_isOfRun`), so they spare the records
of every other run (`IsOfRun.spares`). The audit entries of a run are listed in the order in which
they were made (`Lists`), and while only queries go on that spare them the list stays.
-/

set_option autoImplicit false

namespace Automation

/-! ## Owners -/

/-- A document is the record of the run with an id, or an audit entry that names the run. -/
def Document.isOfRun (id : ObjectId) (d : Document) : Collection → Bool
  | .flows => false
  | .testRuns => d.id == id
  | .executionLogs => Clause.holds d (.textIs "test_run_id" id.text)

/-- The fields of an audit entry but for the run that it names. -/
def Document.unnamed (d : Document) : Fields := Fields.without ["test_run_id"] d.fields

/-- Which run an entry names does not bear on whether it can be kept, nor on what else is kept of
it. -/
theorem AuditEntry.stored_unnamed (e : AuditEntry) :
    (Value.storedFields? e.document).map (Fields.without ["test_run_id"]) =
      Value.storedFields? (Fields.without ["test_run_id"] e.document) := by
  have hname : Value.hasNul "test_run_id" = false := by decide
  have hagain : Fields.without ["test_run_id"] (Fields.without ["test_run_id"] e.document) =
      Fields.without ["test_run_id"] e.document := rfl
  show (Value.storedFields? (("test_run_id", .text e.runId) ::
    Fields.without ["test_run_id"] e.document)).map _ = _
  generalize Fields.without ["test_run_id"] e.document = rest at hagain ⊢
  rw [Value.storedFields?, hname, if_neg Bool.false_ne_true, Value.stored?_text]
  show Except.map _ (Except.map _ (Value.storedFields? rest)) = _
  cases hrest : Value.storedFields? rest with
  | error d => rfl
  | ok kept =>
    obtain rfl := Value.storedFields?_eq_kept _ hrest
    show Except.ok (Fields.without _ (Value.keptFields rest)) = _
    rw [Fields.without_keptFields, hagain]

namespace Store

variable {s s' : Store} {runId : String} {id oid : ObjectId} {docs : List Document} {d : Document}

/-- What a collection holds beside the documents of a run. -/
def others (s : Store) (id : Option ObjectId) (c : Collection) : List Document :=
  (s.shelf c).documents.filter fun d => !id.any fun id => d.isOfRun id c

/-- A query about the records of a run once it has begun: a change of its test run, a new audit
entry that names it, or a change of an entry that does. -/
def IsOfRun (id : ObjectId) (s : Store) : Query → Prop
  | .update .testRuns oid _ => oid = id
  | .insert .executionLogs fields => fields.get? "test_run_id" = some (.text id.text)
  | .change .executionLogs oid changes =>
    changes.get? "test_run_id" = none ∧ ∀ d ∈ s.executionLogs.documents, d.id = oid →
      d.fields.get? "test_run_id" = some (.text id.text)
  | _ => False

/-- A kept text is the text that was given. -/
theorem get?_keptFields_text {fields : Fields} {name t : String} :
    Fields.get? (Value.keptFields fields) name = some (.text t) ↔
      fields.get? name = some (.text t) := by
  rw [Fields.get?_keptFields, Option.map_eq_some_iff]
  constructor
  · rintro ⟨v, hv, hkept⟩
    rwa [Value.kept_eq_text_iff.1 hkept] at hv
  · intro h
    exact ⟨.text t, h, Value.kept_text t⟩

/-- A change of documents that are passed over, before and after, is passed over. -/
theorem filter_change {shelf : Shelf} {changes : Fields} {p : Document → Bool}
    (h : ∀ d ∈ shelf.documents, d.id = oid → p d = false ∧ p (d.updated changes) = false) :
    (shelf.change oid changes).documents.filter p = shelf.documents.filter p := by
  show (shelf.documents.map _).filter p = _
  revert h
  induction shelf.documents with
  | nil => exact fun _ => rfl
  | cons d rest ih =>
    intro h
    have hrest := ih fun d' hd' => h d' (List.mem_cons_of_mem _ hd')
    rw [List.map_cons, List.filter_cons, List.filter_cons, hrest]
    by_cases hid : d.id = oid
    · obtain ⟨hbefore, hafter⟩ := h d List.mem_cons_self hid
      rw [if_pos hid, hbefore, hafter, if_neg Bool.false_ne_true, if_neg Bool.false_ne_true]
    · rw [if_neg hid]

/-- A query about the records of a run leaves everything else as it is. -/
theorem others_of_isOfRun {q : Query} {y : q.Answer} (hq : s.IsOfRun id q)
    (hy : s.answer q = .ok (y, s')) (c : Collection) :
    s'.others (some id) c = s.others (some id) c := by
  unfold others
  cases answer_shelf c hy with
  | same heq => rw [heq]
  | inserted fields heq hinsert =>
    subst hinsert
    cases c with
    | executionLogs =>
      have hown : Clause.holds ⟨Collection.executionLogs.numbered (s.freshNumber .executionLogs),
          Value.keptFields fields⟩ (.textIs "test_run_id" id.text) = true :=
        Clause.holds_textIs_iff.2 (get?_keptFields_text.2 hq)
      rw [heq, List.filter_append]
      simp [Document.isOfRun, hown]
    | _ => exact hq.elim
  | changed other changes heq hset =>
    rw [heq]
    refine filter_change fun d hd hid => ?_
    rcases hset with rfl | rfl
    · cases c with
      | testRuns =>
        have hsame : d.id = id := hid.trans hq
        simp [Document.isOfRun, Document.updated, hsame]
      | _ => exact hq.elim
    · cases c with
      | executionLogs =>
        have hbefore := hq.2 d hd hid
        have hafter : (d.updated (Value.keptFields changes)).fields.get? "test_run_id" =
            some (.text id.text) :=
          (Fields.get?_merge_of_none (Fields.get?_keptFields_of_none hq.1)).trans hbefore
        have hholds := Clause.holds_textIs_iff.2 hbefore
        have hholds' := Clause.holds_textIs_iff.2 hafter
        simp [Document.isOfRun, hholds, hholds']
      | _ => exact hq.elim
  | deleted other heq hdelete =>
    subst hdelete
    exact hq.elim

/-- The record that a query makes is all that it adds. -/
theorem others_of_insert {fields : Fields} {y : Option ObjectId}
    (hy : s.answer (.insert .testRuns fields) = .ok (y, s')) (c : Collection) :
    s'.others y c = s.others y c := by
  obtain ⟨rfl, rfl⟩ := answer_insert hy
  cases c with
  | testRuns =>
    show List.filter _ (s.testRuns.documents ++ _) = _
    rw [List.filter_append]
    simp [Document.isOfRun, others, shelf]
  | _ => rfl

/-- A query about the records of a run spares those of another. -/
theorem IsOfRun.spares {q : Query} (hq : s.IsOfRun id q) (hne : id ≠ oid) (hid : id.IsProper)
    (hoid : oid.IsProper) : s.SparesRun oid.text oid q := by
  have htext : (Value.text id.text) ≠ .text oid.text := fun h =>
    hne (ObjectId.text_inj hid hoid (Value.text.inj h))
  match q with
  | .update .testRuns _ _ =>
    obtain rfl := hq
    exact hne
  | .insert .executionLogs fields =>
    intro hother
    exact htext (Option.some.inj (hq.symm.trans hother))
  | .change .executionLogs _ _ =>
    refine ⟨hq.1, fun d hd hsame hother => ?_⟩
    exact htext (Option.some.inj ((hq.2 d hd hsame).symm.trans hother))

/-! ## Runs that are still to be made -/

/-- No audit entry names a run that is still to be made. -/
def NamesNoneAhead (s : Store) : Prop :=
  ∀ d ∈ s.executionLogs.documents, ∀ n, s.testRuns.lastNumber < n → n < 10 ^ 23 →
    d.fields.get? "test_run_id" ≠ some (.text (Collection.testRuns.numbered n).text)

theorem NamesNoneAhead.aside (h : s.NamesNoneAhead) {q : Query} {y : q.Answer}
    (hq : q.collection ≠ .executionLogs) (hy : s.answer q = .ok (y, s')) : s'.NamesNoneAhead := by
  have hlogs : s'.executionLogs = s.executionLogs := by
    cases answer_executionLogs hy with
    | same heq => exact heq
    | inserted fields heq hinsert => exact absurd (by rw [hinsert]; rfl) hq
    | changed other changes heq hset => exact absurd (by rcases hset with rfl | rfl <;> rfl) hq
    | deleted other heq hdelete => exact absurd (by rw [hdelete]; rfl) hq
  intro d hd n hn
  rw [hlogs] at hd
  exact h d hd n (Nat.lt_of_le_of_lt (lastNumber_le .testRuns hy) hn)

theorem NamesNoneAhead.answer (h : s.NamesNoneAhead) {q : Query} {y : q.Answer}
    (hq : s.IsOfRun id q)
    (hgiven : ∃ n ≤ s.testRuns.lastNumber, id = Collection.testRuns.numbered n)
    (hy : s.answer q = .ok (y, s')) : s'.NamesNoneAhead := by
  intro d hd n hn hlt hnamed
  have hlast : s.testRuns.lastNumber < n := Nat.lt_of_le_of_lt (lastNumber_le .testRuns hy) hn
  cases answer_executionLogs hy with
  | same heq =>
    rw [heq] at hd
    exact h d hd n hlast hlt hnamed
  | inserted fields heq hinsert =>
    subst hinsert
    rw [heq] at hd
    rcases List.mem_append.1 hd with hd | hd
    · exact h d hd n hlast hlt hnamed
    · -- the new entry names a run that was made before
      obtain ⟨m, hm, rfl⟩ := hgiven
      rw [List.mem_singleton.1 hd, get?_keptFields_text, hq] at hnamed
      have hsame := ObjectId.text_inj (Collection.numbered_isProper (by omega))
        (Collection.numbered_isProper hlt) (Value.text.inj (Option.some.inj hnamed))
      have hnumber := Collection.numbered_injective hsame
      omega
  | changed other changes heq hset =>
    have hspares : changes.get? "test_run_id" = none := by
      rcases hset with rfl | rfl
      · exact hq.elim
      · exact hq.1
    rw [heq] at hd
    obtain ⟨d', hd', -, ⟨-, rfl⟩ | ⟨-, rfl⟩⟩ := Shelf.mem_change hd
    · rw [Document.updated,
        Fields.get?_merge_of_none (Fields.get?_keptFields_of_none hspares)] at hnamed
      exact h d' hd' n hlast hlt hnamed
    · exact h d hd' n hlast hlt hnamed
  | deleted other heq hdelete =>
    subst hdelete
    exact hq.elim

/-! ## The audit entries of a run -/

/-- The audit entries of a run, the oldest first; no other document has the id of one of them. -/
structure Lists (s : Store) (runId : String) (docs : List Document) : Prop where
  found : s.executionLogs.find [.textIs "test_run_id" runId] = docs
  own : ∀ d ∈ s.executionLogs.documents, ∀ d' ∈ docs, d.id = d'.id → d = d'
  apart : docs.Pairwise fun d d' => d.id ≠ d'.id

theorem Lists.mem (h : s.Lists runId docs) (hd : d ∈ docs) :
    d ∈ s.executionLogs.documents ∧ d.fields.get? "test_run_id" = some (.text runId) := by
  rw [← h.found] at hd
  obtain ⟨hmem, hclause⟩ := List.mem_filter.1 hd
  rw [List.all_cons, List.all_nil, Bool.and_true, Clause.holds_textIs_iff] at hclause
  exact ⟨hmem, hclause⟩

/-- A run that is still to be made has no audit entries. -/
theorem NamesNoneAhead.lists (h : s.NamesNoneAhead) {n : Nat} (hn : s.testRuns.lastNumber < n)
    (hlt : n < 10 ^ 23) : s.Lists (Collection.testRuns.numbered n).text [] where
  found := by
    refine List.filter_eq_nil_iff.2 fun d hd => ?_
    rw [List.all_cons, List.all_nil, Bool.and_true, Clause.holds_textIs_iff]
    exact h d hd n hn hlt
  own _ _ _ hd' := absurd hd' List.not_mem_nil
  apart := List.Pairwise.nil

theorem Lists.congr (h : s.Lists runId docs) (hlogs : s'.executionLogs = s.executionLogs) :
    s'.Lists runId docs :=
  ⟨by rw [hlogs]; exact h.found, by rw [hlogs]; exact h.own, h.apart⟩

/-- The list of a run is not touched by queries that spare its records. -/
theorem Lists.spared (h : s.Lists runId docs) {q : Query} {y : q.Answer}
    (hq : s.SparesRun runId id q) (hy : s.answer q = .ok (y, s')) : s'.Lists runId docs := by
  have hfound := (find_spared hq hy).trans h.found
  cases answer_executionLogs hy with
  | same heq => exact h.congr heq
  | inserted fields heq hinsert =>
    refine ⟨hfound, fun d hd d' hd' hsame => ?_, h.apart⟩
    rw [heq] at hd
    rcases List.mem_append.1 hd with hd | hd
    · exact h.own d hd d' hd' hsame
    · rw [List.mem_singleton.1 hd] at hsame
      have hmem := (h.mem hd').1
      exact absurd hsame.symm (id_ne_fresh hmem)
  | changed other changes heq hset =>
    have hspares : ∀ d ∈ s.executionLogs.documents, d.id = other →
        d.fields.get? "test_run_id" ≠ some (.text runId) := by
      rcases hset with rfl | rfl <;> exact hq.2
    refine ⟨hfound, fun d hd d' hd' hsame => ?_, h.apart⟩
    rw [heq] at hd
    obtain ⟨d'', hd'', hsame', ⟨hchanged, -⟩ | ⟨-, rfl⟩⟩ := Shelf.mem_change hd
    · obtain ⟨hmem, hrun⟩ := h.mem hd'
      exact absurd hrun (hspares d' hmem (hsame.symm.trans (hsame'.trans hchanged)))
    · exact h.own d hd'' d' hd' hsame
  | deleted other heq hdelete =>
    subst hdelete
    cases hq

/-- A new entry is the last of the list. -/
theorem Lists.enter (h : s.Lists runId docs) {fields : Fields} {y : Option ObjectId}
    (hrun : fields.get? "test_run_id" = some (.text runId))
    (hy : s.answer (.insert .executionLogs fields) = .ok (y, s')) :
    ∃ oid, y = some oid ∧ oid = Collection.executionLogs.numbered s'.executionLogs.lastNumber ∧
      s'.testRuns = s.testRuns ∧ s'.Lists runId (docs ++ [⟨oid, Value.keptFields fields⟩]) := by
  obtain ⟨rfl, rfl⟩ := answer_insert hy
  have hnew : Clause.holds (⟨Collection.executionLogs.numbered (s.freshNumber .executionLogs),
      Value.keptFields fields⟩ : Document) (.textIs "test_run_id" runId) = true :=
    Clause.holds_textIs_iff.2 (get?_keptFields_text.2 hrun)
  refine ⟨_, rfl, rfl, rfl, ⟨?_, ?_, ?_⟩⟩
  · refine (Shelf.find_concat _ _ _ s.executionLogs.lastNumber _).trans ?_
    rw [List.all_cons, List.all_nil, Bool.and_true, if_pos hnew]
    exact congrArg (· ++ _) h.found
  · intro d hd d' hd' hsame
    rcases List.mem_append.1 hd with hd | hd <;> rcases List.mem_append.1 hd' with hd' | hd'
    · exact h.own d hd d' hd' hsame
    · rw [List.mem_singleton.1 hd'] at hsame
      exact absurd hsame (id_ne_fresh hd)
    · rw [List.mem_singleton.1 hd] at hsame
      exact absurd hsame.symm (id_ne_fresh (h.mem hd').1)
    · rw [List.mem_singleton.1 hd, List.mem_singleton.1 hd']
  · refine List.pairwise_append.2 ⟨h.apart, List.pairwise_singleton _ _, fun d hd d' hd' => ?_⟩
    rw [List.mem_singleton.1 hd']
    exact id_ne_fresh (h.mem hd).1

/-- The last entry of the list is changed, and the others are not. -/
theorem Lists.finish (h : s.Lists runId (docs ++ [d])) {changes : Fields} {y : Option Document}
    (hspares : changes.get? "test_run_id" = none)
    (hy : s.answer (.change .executionLogs d.id changes) = .ok (y, s')) :
    (∃ d', y = some d') ∧ s'.testRuns = s.testRuns ∧
      s'.Lists runId (docs ++ [d.updated (Value.keptFields changes)]) := by
  have hlast : d ∈ docs ++ [d] := List.mem_append_right _ List.mem_cons_self
  obtain ⟨happart, -, hother⟩ := List.pairwise_append.1 h.apart
  have hne : ∀ d' ∈ docs, d'.id ≠ d.id := fun d' hd' => hother d' hd' d List.mem_cons_self
  have hfound : (s.executionLogs.findOne [.idIs d.id]).isSome :=
    List.find?_isSome.2 ⟨d, (h.mem hlast).1, by simp [Clause.holds]⟩
  have hchanged := answer_changed hy
  obtain rfl := answer_change hy
  refine ⟨?_, rfl, ⟨?_, ?_, ?_⟩⟩
  · rw [hchanged, ← Option.isSome_iff_exists, Option.isSome_map]
    exact hfound
  · show (s.executionLogs.change d.id _).find _ = _
    rw [Shelf.find_change _ _ (Fields.get?_keptFields_of_none hspares), h.found, List.map_append]
    congr 1
    · refine (List.map_congr_left fun d' hd' => ?_).trans (List.map_id' _)
      exact if_neg (hne d' hd')
    · exact congrArg (fun d' => [d']) (if_pos rfl)
  · intro d₁ hd₁ d₂ hd₂ hsame
    obtain ⟨d', hd', hid, ⟨hchanged, rfl⟩ | ⟨hunchanged, rfl⟩⟩ := Shelf.mem_change hd₁
    · rcases List.mem_append.1 hd₂ with hd₂ | hd₂
      · exact absurd (hsame.symm.trans (hid.trans hchanged)) (hne d₂ hd₂)
      · rw [List.mem_singleton.1 hd₂, h.own d' hd' d hlast hchanged]
    · rcases List.mem_append.1 hd₂ with hd₂ | hd₂
      · exact h.own d₁ hd' d₂ (List.mem_append_left _ hd₂) hsame
      · rw [List.mem_singleton.1 hd₂] at hsame
        exact absurd hsame hunchanged
  · refine List.pairwise_append.2 ⟨happart, List.pairwise_singleton _ _, fun d' hd' d'' hd'' => ?_⟩
    rw [List.mem_singleton.1 hd'']
    exact hne d' hd'

end Store

end Automation
