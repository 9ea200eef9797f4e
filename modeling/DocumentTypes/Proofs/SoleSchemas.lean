import DocumentTypes.Proofs.OrderlyTypes
import DocumentTypes.Proofs.Rebuilds

/-! # Composites of one schema

A composite over one schema shows the fields of that schema. Names are looked up in different
ways, though: the composite keeps an index in which later fields replace earlier ones, and the
schema prefers the fields of its own namespace. -/

namespace DocumentTypes

/-- A composite shows one schema with these fields, as far as it is up to date. -/
def CompositeType.ShowsSole (composite : CompositeType) (schema : TypeId)
    (fields : List Field) : Prop :=
  composite.isCurrent = true → ∃ generation revision qualifier, composite.merged =
    ({ Snapshot.empty with generation, revision } : Snapshot).addSchema schema qualifier fields

/-- A composite refers to one schema and nothing else, and the schema has these fields. -/
structure Store.Over (store : Store) (id schema : TypeId) (fields : List Field) : Prop where
  sole : (store.compositeAt? id).map (fun composite =>
    composite.references.entries.map fun entry => store.resolve entry.2) = some [some schema]
  complex : (store.complexAt? schema).map (fun complex => complex.fields.values) = some fields

/-- Something holds of a store, and after each of some visits. -/
def Visit.Throughout (Holds : Store → Prop) (id : TypeId) : List Visit → Store → Prop
  | [], store => Holds store
  | visit :: rest, store => Holds store ∧ Throughout Holds id rest (visit.perform id store)

instance (store : Store) (id schema : TypeId) (fields : List Field) :
    Decidable (store.Over id schema fields) :=
  decidable_of_iff (_ ∧ _)
    ⟨fun parts => ⟨parts.1, parts.2⟩, fun holds => ⟨holds.sole, holds.complex⟩⟩

instance Visit.decidableThroughout (Holds : Store → Prop) [DecidablePred Holds] (id : TypeId) :
    (visits : List Visit) → (store : Store) → Decidable (Visit.Throughout Holds id visits store)
  | [], store => inferInstanceAs (Decidable (Holds store))
  | _ :: rest, _ => @instDecidableAnd _ _ _ (decidableThroughout Holds id rest _)

theorem CompositeType.ShowsSole.asked {composite : CompositeType} {schema : TypeId}
    {fields : List Field} (shows : composite.ShowsSole schema fields) {requested : Nat}
    (more : composite.requested ≤ requested) (references : Table String TypeRef) :
    ({ composite with references, requested } : CompositeType).ShowsSole schema fields := by
  intro now
  exact shows (decide_eq_true (Nat.le_trans more (of_decide_eq_true now)))

theorem Action.run_merge_sole {store : Store} {schema : TypeId} {composite : CompositeType}
    {complex : ComplexType} {entry : String × TypeRef} (id : TypeId)
    (sole : composite.references.entries = [entry])
    (resolved : store.resolve entry.2 = some schema)
    (found : store.complexAt? schema = some complex) (depth : Nat) :
    ((merge (fieldsWithin depth) id composite).run store).1 =
      ({ Snapshot.empty with
          generation := composite.merged.generation + 1
          revision := composite.requested } : Snapshot).addSchema schema
        complex.space.qualifier complex.fields.values := by
  have bound : (store.type? schema).bind DocumentType.complex? = some complex := found
  have fields : store.fieldsAt schema = complex.fields.values := by rw [Store.fieldsAt, found]; rfl
  simp only [merge, run_bind, sole, List.foldlM_cons, List.foldlM_nil, mergeSchema, run_resolve,
    resolved, run_type?, bound, run_fieldsWithin_complex found, fields, run_pure]
  rfl

namespace Visit

variable {store : Store} {id schema : TypeId} {composite : CompositeType} {fields : List Field}
  {visits : List Visit}

theorem showsSole_perform (visit : Visit) (stays : store.Over id schema fields)
    (only : visit.OnlyAsks id store) (found : store.compositeAt? id = some composite)
    (shows : composite.ShowsSole schema fields) :
    ∃ next, (visit.perform id store).compositeAt? id = some next ∧
      next.ShowsSole schema fields := by
  have replaced (next : CompositeType) :
      (store.setKind id (.composite next)).compositeAt? id = some next := by
    rw [Store.compositeAt?_setKind_composite found, if_pos rfl]
  cases visit with
  | addSchema reference =>
      rw [perform, Action.run_addSchema found]
      cases reference.target? with
      | none => exact ⟨composite, found, shows⟩
      | some target => exact ⟨_, replaced _, shows.asked (Nat.le_succ _) _⟩
  | invalidate =>
      have bound : (store.type? id).bind DocumentType.composite? = some composite := found
      have run : ((Action.invalidate id).run store).2 =
          store.setKind id (.composite composite.invalidate) := by
        simp only [Action.invalidate, Action.run_bind, Action.run_type?, bound]
        rfl
      rw [perform, run]
      exact ⟨_, replaced _, shows.asked (Nat.le_succ _) composite.references⟩
  | read reading =>
      rcases reading.compositeAt?_ask found with ⟨shown, shownFound, rfl, -⟩
      refine ⟨_, shownFound, fun _ => ?_⟩
      rw [Action.run_snapshotOf found]
      cases now : composite.isCurrent with
      | true => exact shows now
      | false =>
          rw [if_neg Bool.false_ne_true]
          have sole := stays.sole
          rw [found, Option.map_some] at sole
          rcases List.map_eq_singleton_iff.mp (Option.some.inj sole) with ⟨entry, only, resolved⟩
          rcases Option.map_eq_some_iff.mp stays.complex with ⟨complex, complexFound, rfl⟩
          exact ⟨_, _, _, Action.run_merge_sole id only resolved complexFound _⟩
  | elsewhere event requests =>
      exact ⟨_, only.trans (congrArg _ found), shows.asked (Nat.le_add_right _ _) _⟩

theorem orderly_perform (visit : Visit) (found : store.compositeAt? id = some composite)
    (orderly : store.Orderly) : (visit.perform id store).Orderly := by
  cases visit with
  | addSchema reference => exact orderly.addSchema id reference
  | invalidate => exact orderly.perform (.operate (.invalidate id))
  | read reading =>
      rw [perform, reading.run_ask found]
      have looked := (Action.steadies_snapshotOf id).run store
      have drawn := (Reading.steadies_drawn ((Action.snapshotOf id).run store).1 reading).run
        ((Action.snapshotOf id).run store).2
      exact orderly.consulted (looked.trans drawn).consulted
  | elsewhere event => exact orderly.perform event

theorem showsSole_visited (stays : Throughout (Store.Over · id schema fields) id visits store)
    (only : AllOnlyAsk id visits store) (orderly : store.Orderly)
    (found : store.compositeAt? id = some composite) (shows : composite.ShowsSole schema fields) :
    (store.visited id visits).Orderly ∧ (store.visited id visits).Over id schema fields ∧
      ∃ next, (store.visited id visits).compositeAt? id = some next ∧
        next.ShowsSole schema fields := by
  induction visits generalizing store composite with
  | nil => exact ⟨orderly, stays, composite, found, shows⟩
  | cons visit rest induction =>
      rcases visit.showsSole_perform stays.1 only.1 found shows with ⟨next, nextFound, nextShows⟩
      exact induction stays.2 only.2 (visit.orderly_perform found orderly) nextFound nextShows

end Visit

theorem Action.run_lookUp_sole {store : Store} {id schema : TypeId} {composite : CompositeType}
    {fields : List Field} (stays : store.Over id schema fields)
    (found : store.compositeAt? id = some composite) (shows : composite.ShowsSole schema fields)
    (name : String) :
    ((lookUp id name).run store).1 = fields.reverse.find? (·.isShownAs name) := by
  have merged : ∃ generation revision qualifier, ((snapshotOf id).run store).1 =
      ({ Snapshot.empty with generation, revision } : Snapshot).addSchema schema qualifier
        fields := by
    rcases Visit.showsSole_perform (.read .snapshot) stays trivial found shows with
      ⟨next, nextFound, nextShows⟩
    rcases compositeAt?_snapshotOf found with ⟨shown, shownFound, rfl, now⟩
    cases shownFound.symm.trans nextFound
    exact nextShows now
  rcases merged with ⟨generation, revision, qualifier, merged⟩
  have kind := Store.kind_of_compositeAt? found
  simp only [lookUp, run_bind, run_type?, kind, run_pure, merged, Snapshot.addSchema]
  rw [Snapshot.get?_foldl_put]
  exact Option.or_none

namespace Visit

/-- A composite over one schema, which keeps its fields since the composite was registered,
shows the same names as the schema. Under a bare name it shows the same field just if the
schema has only one field of this local name, or if the last of them is of its own namespace.
Under a qualified name it shows the same field unless a local name or a namespace looks like
a qualified name. -/
theorem lookUp_over_sole_schema {events : List Event} {id schema : TypeId}
    {composite : CompositeType} {complex : ComplexType} {fields : List Field}
    {visits : List Visit} {store : Store}
    (after : store = (Store.initial.after events).visited id visits)
    (found : (Store.initial.after events).compositeAt? id = some composite)
    (shows : composite.ShowsSole schema fields)
    (only : AllOnlyAsk id visits (Store.initial.after events))
    (stays : Throughout (Store.Over · id schema fields) id visits (Store.initial.after events))
    (complexFound : store.complexAt? schema = some complex) :
    let bySchema (name : String) := ((Action.lookUp schema name).run store).1
    let byComposite (name : String) := ((Action.lookUp id name).run store).1
    (∀ name, ':' ∉ name.toList →
      (byComposite name).isSome = (bySchema name).isSome ∧
      (byComposite name = bySchema name ↔ (complex.namesakes name).length ≤ 1 ∨
        ∃ last ∈ (complex.namesakes name).getLast?,
          last.name.qualifier = complex.space.qualifier)) ∧
    ∀ qualifier localName, qualifier ≠ "" → ':' ∉ qualifier.toList →
      (∀ field ∈ complex.fields.values, ':' ∉ field.name.qualifier.toList ∧
        field.localName ≠ qualifier ++ ":" ++ localName) →
      byComposite (qualifier ++ ":" ++ localName) = bySchema (qualifier ++ ":" ++ localName) := by
  subst after
  intro bySchema byComposite
  rcases showsSole_visited stays only (Store.orderly_after events) found shows with
    ⟨orderly, stillOver, next, nextFound, nextShows⟩
  have fields_eq : fields = complex.fields.values := by
    have known := stillOver.complex
    rw [complexFound, Option.map_some] at known
    exact (Option.some.inj known).symm
  have ofSchema (name : String) : bySchema name = complex.find? name :=
    Action.run_lookUp_orderly orderly complexFound name
  have ofComposite (name : String) : byComposite name =
      complex.fields.values.reverse.find? (·.isShownAs name) := by
    rw [← fields_eq]
    exact Action.run_lookUp_sole stillOver nextFound nextShows name
  have keyed := (orderly _ _ complexFound).keyed
  refine ⟨fun name bare => ?_, fun qualifier localName present plain apart => ?_⟩
  · rw [ofSchema, ofComposite]
    exact ⟨(keyed.isSome_find?_of_bare bare).symm, eq_comm.trans (keyed.find?_eq_shown_iff bare)⟩
  · rw [ofSchema, ofComposite]
    exact (keyed.find?_append_eq_shown present plain apart).symm

/-- A facet over a schema with two pairs of fields of one local name. -/
theorem lookUp_over_registered_schema :
    let declare (name : String) : FieldDeclaration := { name, valueType := .null }
    let events : List Event := [
      .operate (.build ⟨⟨"dc", "dc"⟩, .null, 0, .complex ⟨"", "d"⟩ none
        [declare "x:title", declare "title", declare "note", declare "y:note"]⟩),
      .operate (.registerSchema ⟨8⟩), .operate (.registerFacet "card" ["dc"])]
    let visits := [.read (.field "title"), .elsewhere (.operate (.registerType ⟨8⟩)) 0,
      .invalidate, .read .fields]
    let store := (Store.initial.after events).visited ⟨9⟩ visits
    let bySchema (name : String) := ((Action.lookUp ⟨8⟩ name).run store).1
    let byComposite (name : String) := ((Action.lookUp ⟨9⟩ name).run store).1
    byComposite "title" = bySchema "title" ∧
      (byComposite "title").map Field.name = some ⟨"d", "title"⟩ ∧
    byComposite "note" ≠ bySchema "note" ∧
    byComposite "y:note" = bySchema "y:note" ∧
      (byComposite "y:note").map Field.name = some ⟨"y", "note"⟩ ∧
    (byComposite "text").isSome = (bySchema "text").isSome := by
  intro declare events visits store bySchema byComposite
  have outdated : ((Store.initial.after events).compositeAt? ⟨9⟩).map CompositeType.isCurrent =
      some false := by decide +kernel
  have known : (store.complexAt? ⟨8⟩).map (fun complex =>
      ["title", "note"].map fun name => decide ((complex.namesakes name).length ≤ 1 ∨
        ∃ last ∈ (complex.namesakes name).getLast?,
          last.name.qualifier = complex.space.qualifier)) = some [true, false] := by
    decide +kernel
  have plain : ∀ complex ∈ store.complexAt? ⟨8⟩, ∀ field ∈ complex.fields.values,
      ':' ∉ field.name.qualifier.toList ∧ field.localName ≠ "y" ++ ":" ++ "note" := by
    decide +kernel
  rcases Option.map_eq_some_iff.mp outdated with ⟨composite, found, notYet⟩
  rcases Option.map_eq_some_iff.mp known with ⟨complex, complexFound, equal⟩
  have only : AllOnlyAsk ⟨9⟩ visits (Store.initial.after events) :=
    ⟨trivial, onlyAsks_registerType _, trivial, trivial, trivial⟩
  have stays : Throughout (Store.Over · ⟨9⟩ ⟨8⟩ ((Store.initial.after events).fieldsAt ⟨8⟩)) ⟨9⟩
      visits (Store.initial.after events) := by decide +kernel
  have shown := lookUp_over_sole_schema rfl found (fun now => absurd now (by simp [notYet])) only
    stays complexFound
  simp only [List.map_cons, List.map_nil, List.cons.injEq, decide_eq_true_eq,
    decide_eq_false_iff_not, and_true] at equal
  have title := (shown.1 "title" (by decide)).2.mpr equal.1
  have note := mt (shown.1 "note" (by decide)).2.mp equal.2
  have qualified := shown.2 "y" "note" (by decide) (by decide) (plain complex complexFound)
  have text := (shown.1 "text" (by decide)).1
  exact ⟨title, by decide +kernel, note, qualified, by decide +kernel, text⟩

/-- A composite that has just been registered over a schema finds another field under a bare
name and under a qualified name that is also a local name, and none under a name that begins
with the separator. -/
theorem lookUp_over_schema_differs :
    let declare (name : String) : FieldDeclaration := { name, valueType := .null }
    let store := Store.initial.after [
      .operate (.build ⟨⟨"dc", "dc"⟩, .null, 0, .complex .none none
        [declare "title", declare "q:title", declare "a:b", declare "p:a:b"]⟩),
      .operate (.build ⟨⟨"dc", "card"⟩, .null, 0, .composite [.direct ⟨8⟩ ⟨"dc", "dc"⟩]⟩)]
    let bySchema (name : String) := ((Action.lookUp ⟨8⟩ name).run store).1.map Field.name
    let byComposite (name : String) := ((Action.lookUp ⟨9⟩ name).run store).1.map Field.name
    store.Over ⟨9⟩ ⟨8⟩ (store.fieldsAt ⟨8⟩) ∧
    bySchema "title" = some ⟨"", "title"⟩ ∧ byComposite "title" = some ⟨"q", "title"⟩ ∧
    bySchema ":title" = some ⟨"", "title"⟩ ∧ byComposite ":title" = none ∧
    bySchema "a:b" = some ⟨"a", "b"⟩ ∧ byComposite "a:b" = some ⟨"p", "a:b"⟩ := by
  intro declare store bySchema byComposite
  refine ⟨?_, ?_, ?_, ?_, ?_, ?_, ?_⟩ <;> decide +kernel

end Visit
end DocumentTypes
