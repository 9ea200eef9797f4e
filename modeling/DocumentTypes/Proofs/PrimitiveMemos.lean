import DocumentTypes.Proofs.Consultation
import DocumentTypes.Proofs.Filing
import DocumentTypes.Proofs.Scalars

/-! # Remembered primitives

A simple type reads, writes and converts values through a primitive that it finds once and
remembers, while it validates along the chain of bases as it is at the moment. The two agree
until the chain of a type that remembers is led to another primitive. -/

namespace DocumentTypes

/-! ## Runs -/

inductive Query
  | primitiveOf (id : TypeId)
  | decode (id : TypeId) (text : Option String)
  | encode (id : TypeId) (value : Value)
  | convert (id : TypeId) (value : Value)
  | validate (id : TypeId) (value : Value)

def Query.perform (query : Query) (store : Store) : Store :=
  match query with
  | primitiveOf id => ((Action.primitiveOf id).run store).2
  | decode id text => ((Attempt.decode id text).run.run store).2
  | encode id value => ((Action.encode value id).run store).2
  | convert id value => ((Attempt.convert value id).run.run store).2
  | validate _ _ => store

theorem Query.consulted_perform (query : Query) (store : Store) :
    store.Consulted (query.perform store) := by
  cases query with
  | primitiveOf id => exact Action.consults_primitiveOf id store
  | decode id text => exact Action.consults_decode id text store
  | encode id value => exact Action.consults_encode value id store
  | convert id value => exact Action.consults_convert value id store
  | validate => exact .refl store

/-- What happens to a store: types are built and registered, or asked. -/
inductive Event
  | operate (operation : Operation)
  | ask (query : Query)

namespace Event

def perform (event : Event) (store : Store) : Store :=
  match event with
  | operate operation => operation.perform store
  | ask query => query.perform store

/-- No simple type that remembers its primitive comes to derive from another one. -/
def Spares (store : Store) : Event → Prop
  | operate operation => ∀ id known path primitive, store.remembered? id = some known →
      (operation.perform store).Derives id path primitive → primitive = known
  | ask _ => True

/-- Each event of a run spares the types that remember. -/
def AllSpare : List Event → Store → Prop
  | [], _ => True
  | event :: rest, store => event.Spares store ∧ AllSpare rest (event.perform store)

end Event

namespace Store

def after (store : Store) (events : List Event) : Store :=
  events.foldl (fun store event => event.perform store) store

end Store

theorem Operation.lasting_perform (operation : Operation) (store : Store) :
    store.Lasting (operation.perform store) :=
  (operation.refiled_perform store).lasting

namespace Event

open Store (RemembersPrimitives RemembersDerived)

variable {store : Store} {id primitive : TypeId}

theorem remembered?_perform (event : Event) (known : store.remembered? id = some primitive) :
    (event.perform store).remembered? id = some primitive := by
  cases event with
  | operate operation => exact ((operation.lasting_perform store).remembered?_eq id).trans known
  | ask query => exact (query.consulted_perform store).remembered? known

theorem primitiveAt?_perform (event : Event) {kind : PrimitiveKind}
    (found : store.primitiveAt? id = some kind) :
    (event.perform store).primitiveAt? id = some kind := by
  cases event with
  | operate operation => exact (operation.lasting_perform store).primitiveAt? found
  | ask query => exact (query.consulted_perform store).sameDeclared.primitiveAt? found

theorem remembersPrimitives_perform (event : Event) (remembers : store.RemembersPrimitives) :
    (event.perform store).RemembersPrimitives := by
  cases event with
  | operate operation =>
      intro id primitive known
      have lasting := operation.lasting_perform store
      rcases remembers id primitive ((lasting.remembered?_eq id).symm.trans known) with
        ⟨kind, found⟩
      exact ⟨kind, lasting.primitiveAt? found⟩
  | ask query => exact remembers.consulted (query.consulted_perform store)

theorem remembersDerived_perform {event : Event} (spares : event.Spares store)
    (remembers : store.RemembersDerived) : (event.perform store).RemembersDerived := by
  cases event with
  | operate operation =>
      intro id known path primitive remembered derives
      have early := ((operation.lasting_perform store).remembered?_eq id).symm.trans remembered
      exact spares id known path primitive early derives
  | ask query => exact remembers.consulted (query.consulted_perform store)

end Event

namespace Store

variable {store : Store} {id primitive : TypeId} {trail : List TypeId}

theorem after_keeps (Invariant : Store → Prop)
    (each : ∀ {store} (event : Event), Invariant store → Invariant (event.perform store))
    (events : List Event) (holds : Invariant store) : Invariant (store.after events) := by
  induction events generalizing store with
  | nil => exact holds
  | cons event rest induction => exact induction (each event holds)

theorem remembersDerived_after {events : List Event} (spare : Event.AllSpare events store)
    (remembers : store.RemembersDerived) : (store.after events).RemembersDerived := by
  induction events generalizing store with
  | nil => exact remembers
  | cons event rest induction =>
      exact induction spare.2 (event.remembersDerived_perform spare.1 remembers)

theorem remembered?_following (operations : List Operation) (id : TypeId) :
    (following operations).remembered? id = none :=
  (refiled_following operations).lasting.remembered?_eq id

theorem spares_following (operations : List Operation) (operation : Operation) :
    (Event.operate operation).Spares (following operations) :=
  fun id _ _ _ known => nomatch (remembered?_following operations id).symm.trans known

theorem Finds.after (finds : store.Finds id [] primitive) (events : List Event) :
    (store.after events).Finds id [] primitive := by
  cases finds with
  | @primitive _ kind found =>
      exact .primitive (after_keeps (fun store => store.primitiveAt? id = some kind)
        (fun event => event.primitiveAt?_perform) events found)
  | remembered known =>
      exact .remembered (after_keeps (fun store => store.remembered? id = some primitive)
        (fun event => event.remembered?_perform) events known)

theorem Finds.recalled (finds : store.Finds id trail primitive) :
    (store.rememberAll trail primitive).Finds id [] primitive := by
  cases finds with
  | primitive found => exact .primitive found
  | remembered known => exact .remembered known
  | searched found unknown base_eq rest =>
      refine .remembered ?_
      rw [Finds.remembered?_rememberAll (.searched found unknown base_eq rest),
        if_pos List.mem_cons_self]

theorem Finds.kind (finds : store.Finds id trail primitive) :
    ∃ type, store.type? id = some type ∧
      ((∃ kind, type.kind = .primitive kind) ∨ ∃ simple, type.kind = .simple simple) := by
  have simple : ∀ simple, store.simpleAt? id = some simple → ∃ type, store.type? id = some type ∧
      ((∃ kind, type.kind = .primitive kind) ∨ ∃ simple, type.kind = .simple simple) := by
    intro simple found
    rcases kind_of_simpleAt? found with ⟨type, typeFound, kind⟩
    exact ⟨type, typeFound, .inr ⟨simple, kind⟩⟩
  cases finds with
  | primitive found =>
      rcases kind_of_primitiveAt? found with ⟨type, typeFound, kind⟩
      exact ⟨type, typeFound, .inl ⟨_, kind⟩⟩
  | remembered known =>
      rw [remembered?_eq_bind] at known
      rcases Option.bind_eq_some_iff.mp known with ⟨found, simpleFound, -⟩
      exact simple found simpleFound
  | searched found => exact simple _ found

variable {codec : PrimitiveKind}

theorem Finds.run_codecOf (finds : store.Finds id trail primitive)
    (found : store.primitiveAt? primitive = some codec) :
    (Action.codecOf id).run store = (some codec, store.rememberAll trail primitive) := by
  have later := (sameDeclared_rememberAll store trail primitive).primitiveAt? found
  unfold Action.codecOf
  rw [Action.run_bind, Action.run_primitiveOf_of_finds finds]
  exact congrArg (·, store.rememberAll trail primitive) later

theorem Finds.run_decode (finds : store.Finds id trail primitive)
    (found : store.primitiveAt? primitive = some codec) (text : Option String) :
    (Attempt.decode id text).run.run store =
      (codec.decode text, store.rememberAll trail primitive) := by
  rcases finds.kind with ⟨type, typeFound, kind⟩
  rw [Action.run_decode]
  rcases kind with ⟨_, kind⟩ | ⟨_, kind⟩
  all_goals
    rw [Attempt.decodeWithin, Attempt.run_bind_type?, typeFound, Option.map_some, kind]
    dsimp only
    rw [Attempt.run_bind, Attempt.run_lift, finds.run_codecOf found]
    rfl

theorem Finds.run_convert (finds : store.Finds id trail primitive)
    (found : store.primitiveAt? primitive = some codec) (given : Value) :
    (Attempt.convert given id).run.run store =
      (codec.convert given, store.rememberAll trail primitive) := by
  rcases finds.kind with ⟨type, typeFound, kind⟩
  have conversion : (Action.conversionOf id).run store =
      (.scalar (some codec), store.rememberAll trail primitive) := by
    rcases kind with ⟨_, kind⟩ | ⟨_, kind⟩
    all_goals
      rw [Action.conversionOf, Action.run_bind, Action.run_type?, typeFound, Option.map_some, kind]
      dsimp only
      rw [Action.run_bind, finds.run_codecOf found]
      rfl
  rw [Attempt.convert_eq, Attempt.run_bind, Attempt.run_lift, conversion]
  rfl

/-- The primitive of a type that derives from one is the primitive that the nearest type of
its chain remembers, or else the end of the chain. The answer stays the same for ever. It is
the end of the chain unless a simple type that remembered its primitive has been made to
derive from another one. What the type reads or converts is accepted by the primitive that
is found, while a value is valid if the simple types of the chain and its end accept it. -/
theorem primitiveOf_of_derives (events : List Event) (id : TypeId) (path : List TypeId)
    (primitive : TypeId) (derives : (Store.initial.after events).Derives id path primitive) :
    let store := Store.initial.after events
    let found := (path.findSome? store.remembered?).getD primitive
    ((Action.primitiveOf id).run store).1 = some found ∧
    (∀ later, ((Action.primitiveOf id).run
      (store.after (.ask (.primitiveOf id) :: later))).1 = some found) ∧
    (Event.AllSpare events .initial → found = primitive) ∧
    (∃ codec, store.primitiveAt? found = some codec ∧
      (∀ text value, ((Attempt.decode id text).run.run store).1 = .ok value →
        codec.validate value = true) ∧
      ∀ given value, ((Attempt.convert given id).run.run store).1 = .ok value →
        codec.validate value = true) ∧
    ∃ last, store.primitiveAt? primitive = some last ∧
      ∀ value, value.isNull = false → store.validate id value =
        ((path.all fun other =>
          (store.simpleAt? other).all fun simple => simple.admits value) &&
          last.validate value) := by
  intro store found
  have finds : store.Finds id _ found := derives.finds
  have run := Action.run_primitiveOf_of_finds finds
  have remembers : store.RemembersPrimitives :=
    after_keeps RemembersPrimitives (fun event => event.remembersPrimitives_perform) events
      fun id _ known => nomatch (remembered?_following [] id).symm.trans known
  refine ⟨by rw [run], fun later => ?_, fun spare => ?_, ?_, ?_⟩
  · change ((Action.primitiveOf id).run
      ((((Action.primitiveOf id).run store).2).after later)).1 = some found
    rw [run, Action.run_primitiveOf_of_finds (finds.recalled.after later)]
  · have derived : store.RemembersDerived := remembersDerived_after spare
      fun id _ _ _ known => nomatch (remembered?_following [] id).symm.trans known
    exact derives.findSome?_getD derived
  · rcases finds.primitiveAt? remembers with ⟨codec, codecFound⟩
    refine ⟨codec, codecFound, fun text value decoded => ?_, fun given value converted => ?_⟩
    · rw [finds.run_decode codecFound] at decoded
      exact PrimitiveKind.validate_of_decode decoded
    · rw [finds.run_convert codecFound] at converted
      exact PrimitiveKind.validate_of_convert converted
  · rcases derives.primitiveAt? with ⟨last, lastFound⟩
    exact ⟨last, lastFound, fun value given => derives.validate_eq lastFound given⟩

/-- A type derives from a number through a name, and remembers that. -/
theorem primitiveOf_of_derives_named :
    let number : Blueprint := {
      name := ⟨"dc", "size"⟩
      base := .direct ⟨3⟩ ⟨primitiveSchema, "long"⟩
      body := .simple [] }
    let count : Blueprint := {
      name := ⟨"dc", "count"⟩
      base := .named Store.initial.registryId ⟨"dc", "size"⟩
      body := .simple [] }
    let events : List Event := [.operate (.build number), .operate (.registerType ⟨8⟩),
      .operate (.build count), .ask (.decode ⟨9⟩ (some "7"))]
    let store := Store.initial.after events
    store.Derives ⟨9⟩ [⟨9⟩, ⟨8⟩] ⟨3⟩ ∧ store.remembered? ⟨9⟩ = some ⟨3⟩ ∧
    Event.AllSpare events .initial ∧ ((Action.primitiveOf ⟨9⟩).run store).1 = some ⟨3⟩ ∧
    ∃ codec, store.primitiveAt? ⟨3⟩ = some codec ∧
      ∀ text value, ((Attempt.decode ⟨9⟩ text).run.run store).1 = .ok value →
        codec.validate value = true := by
  intro number count events
  have derives : (Store.initial.after events).Derives ⟨9⟩ [⟨9⟩, ⟨8⟩] ⟨3⟩ :=
    .of_base (by decide +kernel) (by decide +kernel) (by decide +kernel)
      (.of_base (by decide +kernel) (by decide +kernel) (by decide +kernel)
        (.primitive (show _ = some PrimitiveKind.long by decide +kernel)))
  have known : (Store.initial.after events).remembered? ⟨9⟩ = some ⟨3⟩ := by decide +kernel
  have spare : Event.AllSpare events .initial :=
    ⟨spares_following [] _, spares_following [.build number] _,
      spares_following [.build number, .registerType ⟨8⟩] _, trivial, trivial⟩
  rcases primitiveOf_of_derives events ⟨9⟩ _ ⟨3⟩ derives with
    ⟨answer, -, last, ⟨codec, codecFound, decodes, -⟩, -⟩
  rw [last spare] at answer codecFound
  exact ⟨derives, known, spare, answer, codec, codecFound, decodes⟩

/-- When the name comes to mean a text, the type goes on reading numbers, which are not
valid any more. A type that derives from a structured one has no primitive. -/
theorem primitiveOf_after_redefinition :
    let simple (name : String) (base : TypeRef) : Blueprint := {
      name := ⟨"dc", name⟩
      base
      body := .simple [] }
    let redefined := Store.initial.after [
      .operate (.build (simple "size" (.direct ⟨3⟩ ⟨primitiveSchema, "long"⟩))),
      .operate (.registerType ⟨8⟩),
      .operate (.build (simple "count" (.named Store.initial.registryId ⟨"dc", "size"⟩))),
      .ask (.decode ⟨9⟩ (some "7")),
      .operate (.build (simple "size" (.direct ⟨0⟩ ⟨primitiveSchema, "string"⟩))),
      .operate (.registerType ⟨10⟩)]
    let structured := Store.initial.after [
      .operate (.build {
        name := ⟨"dc", "part"⟩
        base := .direct ⟨3⟩ ⟨primitiveSchema, "long"⟩
        body := .complex ⟨"", ""⟩ none [] }),
      .operate (.build (simple "count" (.direct ⟨8⟩ ⟨"dc", "part"⟩)))]
    (redefined.Derives ⟨9⟩ [⟨9⟩, ⟨10⟩] ⟨0⟩ ∧
      ((Action.primitiveOf ⟨9⟩).run redefined).1 = some ⟨3⟩ ∧
      (((Attempt.decode ⟨9⟩ (some "7")).run.run redefined).1.toOption.any fun value =>
        !PrimitiveKind.string.validate value) = true) ∧
    structured.base? ⟨9⟩ = some ⟨8⟩ ∧ structured.base? ⟨8⟩ = some ⟨3⟩ ∧
    structured.primitiveAt? ⟨3⟩ = some .long ∧
    ((Action.primitiveOf ⟨9⟩).run structured).1 = none := by
  intro simple redefined structured
  have derives : redefined.Derives ⟨9⟩ [⟨9⟩, ⟨10⟩] ⟨0⟩ :=
    .of_base (by decide +kernel) (by decide +kernel) (by decide +kernel)
      (.of_base (by decide +kernel) (by decide +kernel) (by decide +kernel)
        (.primitive (show _ = some PrimitiveKind.string by decide +kernel)))
  refine ⟨⟨derives, ?_⟩, ?_⟩ <;> decide +kernel

end Store
end DocumentTypes
