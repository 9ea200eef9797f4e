import DocumentTypes.Proofs.FieldIndexes
import DocumentTypes.Proofs.Numbering
import DocumentTypes.Proofs.OrderlyTypes
import DocumentTypes.Proofs.Reconversion

/-! # Fresh instances

A fresh instance holds under each local name what the last field of this name starts with.
To convert it means to look every name up again. The instance stays what it is when these
lookups find the same fields, in its type and in the types nested there. -/

namespace DocumentTypes

open Store (Steady)

/-! ## The last field of a local name -/

namespace Field

def lastNamed? (fields : List Field) (name : String) : Option Field :=
  fields.reverse.find? fun field => field.localName == name

variable {fields : List Field} {field : Field} {name : String}

theorem lastNamed?_cons (field : Field) (rest : List Field) (name : String) :
    lastNamed? (field :: rest) name =
      (lastNamed? rest name).or (if field.localName = name then some field else none) := by
  rw [lastNamed?, List.reverse_cons, List.find?_append, List.find?_singleton]
  simp [lastNamed?]

theorem of_lastNamed? (found : lastNamed? fields name = some field) :
    field ∈ fields ∧ field.localName = name :=
  ⟨List.mem_reverse.mp (List.mem_of_find?_eq_some found), by simpa using List.find?_some found⟩

theorem isSome_lastNamed? :
    (lastNamed? fields name).isSome = true ↔ ∃ field ∈ fields, field.localName = name := by
  simp [lastNamed?, List.find?_isSome]

end Field

namespace ComplexType

variable {complex : ComplexType} {name : String} {field : Field}

/-- It is settled which field a name means: the name is a bare one, and only one field has it
as local name, or the last of those that have it is the type's own. -/
def Settles (complex : ComplexType) (name : String) : Prop :=
  ':' ∉ name.toList ∧ ((complex.namesakes name).length ≤ 1 ∨
    ∃ last ∈ (complex.namesakes name).getLast?, last.name.qualifier = complex.space.qualifier)

instance (complex : ComplexType) (name : String) : Decidable (complex.Settles name) :=
  inferInstanceAs (Decidable (_ ∧ _))

theorem Keyed.localName_ne (keyed : complex.Keyed) (separated : ':' ∈ name.toList)
    (found : complex.find? name = some field) : field.localName ≠ name := by
  rcases List.eq_append_cons_of_mem separated with ⟨front, back, parts, plain⟩
  have written : name = String.ofList front ++ ":" ++ String.ofList back := by
    rw [← String.toList_inj, parts]
    simp [String.toList_append]
  rw [written, find?_append (by rwa [String.toList_ofList])] at found
  intro same
  have lengths := congrArg String.length same
  rw [Field.localName, keyed _ field found, written] at lengths
  simp [String.length_append] at lengths

theorem Keyed.find?_eq_last_iff (keyed : complex.Keyed)
    (present : ∃ field ∈ complex.fields.values, field.localName = name) :
    complex.find? name = Field.lastNamed? complex.fields.values name ↔ complex.Settles name := by
  by_cases bare : ':' ∈ name.toList
  · refine iff_of_false (fun same => ?_) fun settles => settles.1 bare
    rcases Option.isSome_iff_exists.mp (Field.isSome_lastNamed?.mpr present) with ⟨last, isLast⟩
    exact keyed.localName_ne bare (same.trans isLast) (Field.of_lastNamed? isLast).2
  · have shown : Field.lastNamed? complex.fields.values name =
        complex.fields.values.reverse.find? (·.isShownAs name) :=
      congrArg (List.find? · _) (funext fun field => (Field.isShownAs_of_bare bare).symm)
    rw [shown, keyed.find?_eq_shown_iff bare, Settles, and_iff_right bare]

end ComplexType

namespace Snapshot

/-- It is settled which field a name means: no field has it as full name that has another
local name. -/
def Settles (snapshot : Snapshot) (name : String) : Prop :=
  ∀ field ∈ snapshot.fields, field.name.text = name → field.localName = name

instance (snapshot : Snapshot) (name : String) : Decidable (snapshot.Settles name) :=
  inferInstanceAs (Decidable (∀ field ∈ snapshot.fields, _))

theorem Indexed.get?_eq_last {snapshot : Snapshot} {name : String} (indexed : snapshot.Indexed)
    (settles : snapshot.Settles name) :
    snapshot.fieldsByName.get? name = Field.lastNamed? snapshot.fields name := by
  rw [indexed name, Field.lastNamed?, ← List.head?_filter, ← List.head?_filter]
  refine congrArg List.head? (List.filter_congr fun field member => ?_)
  rw [Field.isShownAs, Bool.or_eq_left_iff_imp, beq_iff_eq, beq_iff_eq]
  exact settles field (List.mem_reverse.mp member)

end Snapshot

/-! ## Nested types -/

namespace Store

variable {store : Store} {id inner : TypeId}

/-- The fields that a fresh instance of a type is made of. -/
def instanceFields (store : Store) (id : TypeId) : List Field :=
  match store.type? id with
  | some ⟨name, _, _, .complex complex⟩ =>
    if name.name = contentTypeName then [] else complex.fields.values
  | some ⟨_, _, _, .composite composite⟩ => composite.merged.fields
  | _ => []

theorem instanceFields_complex {type : DocumentType} {complex : ComplexType}
    (found : store.type? id = some type) (kind : type.kind = .complex complex) :
    store.instanceFields id =
      if type.name.name = contentTypeName then [] else complex.fields.values := by
  rcases type with ⟨name, base, flags, _⟩
  cases kind
  rw [instanceFields, found]

theorem instanceFields_composite {composite : CompositeType}
    (found : store.compositeAt? id = some composite) :
    store.instanceFields id = composite.merged.fields := by
  rcases type_of_compositeAt? found with ⟨⟨name, base, flags, _⟩, typeFound, kind⟩
  cases kind
  rw [instanceFields, typeFound]

theorem instanceFields_later {later : Store} {complex : ComplexType}
    (same : store.SameDeclared later) (found : store.complexAt? id = some complex) :
    later.instanceFields id = store.instanceFields id := by
  rcases type_of_complexAt? found with ⟨type, typeFound, kind⟩
  have equal := congrArg (Store.type? · id) same.eq
  simp only [type?_stripped, typeFound, Option.map_some] at equal
  rcases Option.map_eq_some_iff.mp equal.symm with ⟨laterType, laterFound, laterEqual⟩
  have names : laterType.name = type.name := (congrArg DocumentType.name laterEqual :)
  rcases same.complexAt? found with ⟨lookups, laterComplex⟩
  rcases type_of_complexAt? laterComplex with ⟨other, otherFound, laterKind⟩
  cases laterFound.symm.trans otherFound
  rw [instanceFields_complex typeFound kind, instanceFields_complex laterFound laterKind, names]

def Structured (store : Store) (id : TypeId) : Prop :=
  (store.complexAt? id).isSome = true ∨ (store.compositeAt? id).isSome = true

/-- A type, and whatever types its instances are made of. -/
inductive Nests (store : Store) : TypeId → TypeId → Prop
  | self (id : TypeId) : Nests store id id
  | inside {id child inner : TypeId} {field : Field} (member : field ∈ store.instanceFields id)
      (resolved : store.resolve field.valueType = some child) (rest : Nests store child inner) :
      Nests store id inner

theorem Nests.mem_of_closed {types : List TypeId} (nests : store.Nests id inner)
    (closed : ∀ type ∈ types, ∀ field ∈ store.instanceFields type,
      ∀ child ∈ store.resolve field.valueType, child ∈ types)
    (member : id ∈ types) : inner ∈ types := by
  induction nests with
  | self => exact member
  | inside fieldMember resolved _ induction =>
      exact induction (closed _ member _ fieldMember _ resolved)

/-- It is settled which field each key of a fresh instance means. -/
structure NamesSettled (store : Store) (id : TypeId) : Prop where
  complex : ∀ complex ∈ store.complexAt? id, ∀ field ∈ store.instanceFields id,
    complex.Settles field.localName
  composite : ∀ composite ∈ store.compositeAt? id, ∀ field ∈ store.instanceFields id,
    composite.merged.Settles field.localName

instance (store : Store) (id : TypeId) : Decidable (store.NamesSettled id) :=
  decidable_of_iff ((∀ complex ∈ store.complexAt? id, ∀ field ∈ store.instanceFields id,
      complex.Settles field.localName) ∧
    ∀ composite ∈ store.compositeAt? id, ∀ field ∈ store.instanceFields id,
      composite.merged.Settles field.localName)
    ⟨fun ⟨complex, composite⟩ => ⟨complex, composite⟩, fun settled => ⟨settled.1, settled.2⟩⟩

def SettledThroughout (store : Store) (id : TypeId) : Prop :=
  ∀ inner, store.Nests id inner → store.NamesSettled inner

theorem SettledThroughout.inside {child : TypeId} {field : Field}
    (settled : store.SettledThroughout id) (member : field ∈ store.instanceFields id)
    (resolved : store.resolve field.valueType = some child) : store.SettledThroughout child :=
  fun inner nests => settled inner (.inside member resolved nests)

/-! ## Values that stay what they are -/

variable {after later : Store} {value : Value}

/-- A type converts a value to itself, now and after any further looks. -/
def Fits (store : Store) (id : TypeId) (value : Value) : Prop :=
  ∀ later, store.Steady later → ((Attempt.convert value id).run.run later).1 = .ok value

theorem Fits.of_steady (fits : store.Fits id value) (steady : store.Steady later) :
    later.Fits id value :=
  fun next further => fits next (steady.trans further)

theorem fits_null (store : Store) (id : TypeId) : store.Fits id .null := by
  intro later _
  rw [Attempt.run_convert]
  rcases ((Action.conversionOf id).run later).1 with (_ | codec) | _ | _ <;> rfl

theorem fits_nil {list : ListType}
    (kind : (store.type? id).map DocumentType.kind = some (.list list)) :
    store.Fits id (.list []) := by
  intro later steady
  have kinds := steady.kind? id
  rcases Option.map_eq_some_iff.mp kind with ⟨type, found, isList⟩
  rw [found, Option.map_some, isList] at kinds
  rcases laterFound : later.type? id with _ | ⟨name, base, flags, laterKind⟩ <;>
    rw [laterFound] at kinds
  · cases kinds
  · cases laterKind <;> cases kinds
    have sequence : (Action.conversionOf id).run later =
        (.sequence (later.resolve list.item.valueType), later) :=
      Attempt.run_conversionOf_list (by rw [laterFound]; rfl)
    rw [Attempt.run_convert, sequence]
    rfl

theorem fits_of_scalar {codec : PrimitiveKind}
    (scalar : (Action.conversionOf id).run store = (.scalar (some codec), after))
    (keeps : codec.convert value = .ok value) : after.Fits id value := by
  intro later steady
  have left : ((Action.conversionOf id).run store).2.Steady later := by rwa [scalar]
  rw [Attempt.run_convert]
  rcases Action.conversionOf_later left with equal | ⟨item, sequence, -⟩
  · rw [equal, scalar]
    exact keeps
  · rw [scalar] at sequence
    cases sequence

theorem fits_of_decode {text : Option String}
    (noList : (store.type? id).bind DocumentType.list? = none)
    (run : (Attempt.decode id text).run.run store = (.ok value, after)) : after.Fits id value := by
  rw [Action.run_decode, Attempt.decodeWithin, Attempt.run_bind_type?] at run
  rcases found : store.type? id with _ | ⟨name, base, flags, kind⟩ <;> rw [found] at run
  · cases run
    exact fits_null store id
  · cases kind with
    | primitive | simple =>
        have scalar : (Action.conversionOf id).run store =
            (.scalar ((Action.codecOf id).run store).1, ((Action.codecOf id).run store).2) := by
          simp only [Action.conversionOf, Action.run_bind, Action.run_type?, found,
            Option.map_some, Action.run_pure]
        dsimp only [Option.map_some] at run
        rw [Attempt.run_bind, Attempt.run_lift] at run
        cases codecFound : ((Action.codecOf id).run store).1 with
        | none =>
            rw [codecFound] at run
            cases run
            exact fits_null _ id
        | some codec =>
            rw [codecFound] at run scalar
            rcases Prod.mk.inj ((Attempt.run_liftExcept _ _).symm.trans run) with ⟨decodes, rfl⟩
            exact fits_of_scalar scalar (PrimitiveKind.convert_of_decode decodes)
    | list =>
        rw [found] at noList
        cases noList
    | complex | composite =>
        cases run
        exact fits_null store id

/-! ## Maps -/

/-- A field is found under a key that keeps its value as it is. -/
structure FindsFitting (store : Store) (field? : String → Action (Option Field))
    (entry : String × Value) (field : Field) : Prop where
  finds : ∀ later, store.Steady later → ((field? entry.1).run later).1 = some field
  fits : ∀ child, store.resolve field.valueType = some child → store.Fits child entry.2

theorem run_convertEntries_fitting {field? : String → Action (Option Field)}
    (steadies : ∀ name, Action.Steadies (field? name)) {entries : List (String × Value)}
    (each : ∀ entry ∈ entries, ∃ field, store.FindsFitting field? entry field)
    (steady : store.Steady later) :
    ((Attempt.convertEntries entries field?).run.run later).1 = .ok entries := by
  induction entries generalizing later with
  | nil => rfl
  | cons entry rest induction =>
      rcases entry with ⟨key, value⟩
      rcases each _ List.mem_cons_self with ⟨field, finds, fits⟩
      -- The key is looked up and its entry converted in states that come later still.
      have looked := (steadies key).run later
      have found := finds later steady
      rcases run : (field? key).run later with ⟨answer, middle⟩
      rw [run] at looked found
      have typed : (Attempt.typeUnder field? key).run.run later =
          (.ok (middle.resolve field.valueType), middle) := by
        rw [Attempt.typeUnder, Attempt.run_bind, Attempt.run_lift, run, found]
        rfl
      have part : ((Attempt.convertUnder (middle.resolve field.valueType) value).run.run
          middle).1 = .ok value := by
        cases resolved : middle.resolve field.valueType with
        | none => rfl
        | some child =>
            have before := (steady.trans looked).resolve resolved
            exact fits child before _ (steady.trans looked)
      have converted := (Attempt.steadies_convertUnder (middle.resolve field.valueType) value).run
        middle
      have others := induction (fun other member => each other (List.mem_cons_of_mem _ member))
        (steady.trans (looked.trans converted))
      rw [Attempt.convertEntries_cons, Attempt.run_bind_ok typed,
        Attempt.run_bind_ok (Attempt.run_eq_ok part),
        Attempt.run_bind_ok (Attempt.run_eq_ok others)]
      rfl

theorem fits_map {field? : String → Action (Option Field)} {entries : List (String × Value)}
    (record : ∀ later, store.Steady later →
      ((Action.conversionOf id).run later).1 = .record field?)
    (steadies : ∀ name, Action.Steadies (field? name))
    (each : ∀ entry ∈ entries, ∃ field, store.FindsFitting field? entry field) :
    store.Fits id (.map entries) := by
  intro later steady
  have asked := (Action.steadies_conversionOf id).run later
  have kept := run_convertEntries_fitting steadies each (steady.trans asked)
  rw [Attempt.run_convert, record later steady, Attempt.convertBy,
    Attempt.run_bind_ok (Attempt.run_eq_ok kept)]
  rfl

end Store

namespace Action

variable {store last : Store} {id child : TypeId} {field : Field}
  {instantiate : TypeId → Action Value}

/-! ## What a field starts with -/

theorem run_instantiateField (resolved : store.resolve field.valueType = some child) :
    (∃ list, (store.type? child).map DocumentType.kind = some (.list list) ∧
      (instantiateField instantiate field).run store = (.list [], store)) ∨
    (store.Structured child ∧
      (instantiateField instantiate field).run store = (instantiate child).run store) ∨
    ((store.type? child).bind DocumentType.list? = none ∧
      (instantiateField instantiate field).run store = (defaultOrNull field).run store) := by
  simp only [instantiateField, run_bind, run_resolve, resolved, run_type?]
  rcases found : store.type? child with _ | ⟨name, base, flags, kind⟩
  · exact .inr (.inr ⟨rfl, rfl⟩)
  · cases kind with
    | list list => exact .inl ⟨list, rfl, rfl⟩
    | complex =>
        refine .inr (.inl ⟨.inl ?_, rfl⟩)
        rw [Store.complexAt?, found]
        rfl
    | composite =>
        refine .inr (.inl ⟨.inr ?_, rfl⟩)
        rw [Store.compositeAt?, found]
        rfl
    | primitive | simple => exact .inr (.inr ⟨rfl, rfl⟩)

theorem fits_defaultOrNull (resolved : store.resolve field.valueType = some child)
    (noList : (store.type? child).bind DocumentType.list? = none) :
    ((defaultOrNull field).run store).2.Fits child ((defaultOrNull field).run store).1 := by
  unfold defaultOrNull
  rw [run_bind]
  rcases run : (Attempt.defaultOf field).run.run store with ⟨outcome, middle⟩
  cases outcome with
  | error cause => exact Store.fits_null _ child
  | ok value =>
      unfold Attempt.defaultOf at run
      rw [Attempt.run_bind, Attempt.run_lift, run_resolve, resolved] at run
      cases text : field.defaultText with
      | none =>
          rw [text] at run
          cases run
          exact Store.fits_null _ child
      | some text =>
          rw [text] at run
          exact Store.fits_of_decode noList run

/-- A field starts with a value in the course of making an instance. -/
def StartsWith (instantiate : TypeId → Action Value) (store last : Store) (field : Field)
    (value : Value) : Prop :=
  ∃ start, store.Steady start ∧ start.Indexed ∧
    ((instantiateField instantiate field).run start).1 = value ∧
    ((instantiateField instantiate field).run start).2.Steady last

/-! ## All fields -/

theorem startsWith_mapM (steadies : ∀ id, Steadies (instantiate id))
    (indexes : ∀ id, Preserves Store.Indexed (instantiate id)) (fields : List Field)
    {middle : Store} (begun : store.Steady middle) (indexed : middle.Indexed)
    (steady : ((fields.mapM fun field => return (field.localName,
      ← instantiateField instantiate field)).run middle).2.Steady last) :
    List.Forall₂ (fun field entry => entry.1 = field.localName ∧
        StartsWith instantiate store last field entry.2) fields
      ((fields.mapM fun field => return (field.localName,
        ← instantiateField instantiate field)).run middle).1 := by
  induction fields generalizing middle with
  | nil => exact .nil
  | cons field rest induction =>
      have first := (steadies_instantiateField steadies field).run middle
      have firstIndexed := keptByReads_indexed.instantiateField indexes field middle indexed
      have others : Steadies (rest.mapM fun field =>
          return (field.localName, ← instantiateField instantiate field)) :=
        .mapM (fun field => .bind (steadies_instantiateField steadies field) fun _ => .pure _) rest
      rw [List.mapM_cons] at steady ⊢
      exact .cons ⟨rfl, middle, begun, indexed, rfl, (others.run _).trans steady⟩
        (induction (begun.trans first) firstIndexed steady)

theorem rel_lastNamed? {Holds : Field → Value → Prop} {fields : List Field}
    {entries : List (String × Value)} (each : List.Forall₂ (fun field entry =>
      entry.1 = field.localName ∧ Holds field entry.2) fields entries) (name : String) :
    Option.Rel Holds (Field.lastNamed? fields name) ((Table.ofList entries).get? name) := by
  change Option.Rel _ _ ((Table.empty.putAll entries).get? name)
  rw [Table.get?_putAll, Table.get?_empty, Option.or_none]
  induction each with
  | nil => exact .none
  | @cons field entry fields entries first rest induction =>
      rw [Field.lastNamed?_cons, Entries.last?, first.1]
      generalize Field.lastNamed? fields name = later,
        Entries.last? entries name = laterValue at induction ⊢
      cases induction with
      | some holds => exact .some holds
      | none =>
          rw [Option.none_or, Option.none_or]
          split
          · exact .some first.2
          · exact .none

/-- An instance has the local names of its fields as keys, and under each of them what the last
field of this name starts with. -/
theorem run_instantiateFields (steadies : ∀ id, Steadies (instantiate id))
    (indexes : ∀ id, Preserves Store.Indexed (instantiate id)) (fields : List Field)
    (indexed : store.Indexed)
    (steady : ((instantiateFields instantiate fields).run store).2.Steady last) :
    ∃ table : Table String Value,
      ((instantiateFields instantiate fields).run store).1 = .map table.entries ∧
      (∀ name, table.contains name = true ↔ ∃ field ∈ fields, field.localName = name) ∧
      ∀ name value, table.get? name = some value → ∃ field,
        Field.lastNamed? fields name = some field ∧
        StartsWith instantiate store last field value := by
  have each := startsWith_mapM steadies indexes fields (.refl store) indexed steady
  obtain ⟨table, made, held⟩ : ∃ table : Table String Value,
      ((instantiateFields instantiate fields).run store).1 = .map table.entries ∧
      ∀ name, Option.Rel (StartsWith instantiate store last) (Field.lastNamed? fields name)
        (table.get? name) := ⟨_, rfl, rel_lastNamed? each⟩
  refine ⟨table, made, fun name => ?_, fun name value found => ?_⟩ <;> have held := held name
  · rw [Table.contains, ← Field.isSome_lastNamed?]
    generalize Field.lastNamed? fields name = field, table.get? name = value at held ⊢
    cases held <;> exact Iff.rfl
  · rw [found] at held
    generalize Field.lastNamed? fields name = field at held ⊢
    cases held with
    | some holds => exact ⟨_, rfl, holds⟩

/-! ## Nested instances -/

theorem run_instantiateWithin_complex {type : DocumentType} {complex : ComplexType}
    (found : store.type? id = some type) (kind : type.kind = .complex complex) (depth : Nat) :
    (instantiateWithin (depth + 1) id).run store =
      if type.name.name = contentTypeName then (.null, store)
      else (instantiateFields (instantiateWithin depth) complex.fields.values).run store := by
  rw [instantiateWithin, run_bind, run_type?, found]
  dsimp only
  rw [kind]
  dsimp only
  split <;> rfl

theorem run_instantiateWithin_composite {composite : CompositeType}
    (found : store.compositeAt? id = some composite) (depth : Nat) :
    (instantiateWithin (depth + 1) id).run store =
      (instantiateFields (instantiateWithin depth) ((snapshotOf id).run store).1.fields).run
        ((snapshotOf id).run store).2 := by
  rcases Store.type_of_compositeAt? found with ⟨type, typeFound, kind⟩
  rw [instantiateWithin, run_bind, run_type?, typeFound]
  dsimp only
  rw [kind]
  rfl

theorem fits_instantiateFields (steadies : ∀ id, Steadies (instantiate id))
    (indexes : ∀ id, Preserves Store.Indexed (instantiate id)) {fields : List Field}
    (indexed : store.Indexed)
    (steady : ((instantiateFields instantiate fields).run store).2.Steady last)
    (nested : ∀ field ∈ fields, ∀ child, last.resolve field.valueType = some child →
      ∀ start : Store, store.Steady start → start.Indexed → start.Structured child →
        ((instantiate child).run start).2.Steady last →
        last.Fits child ((instantiate child).run start).1)
    {field? : String → Action (Option Field)} (fieldSteadies : ∀ name, Steadies (field? name))
    (record : ∀ later, last.Steady later → ((conversionOf id).run later).1 = .record field?)
    (finds : ∀ field ∈ fields, ∀ later, last.Steady later →
      ((field? field.localName).run later).1 = Field.lastNamed? fields field.localName) :
    last.Fits id ((instantiateFields instantiate fields).run store).1 := by
  rcases run_instantiateFields steadies indexes fields indexed steady with ⟨table, made, -, holds⟩
  rw [made]
  refine Store.fits_map record fieldSteadies fun entry member => ?_
  rcases holds entry.1 entry.2 (Table.mem_entries_iff.mp member) with ⟨field, isLast, startsWith⟩
  rcases startsWith with ⟨start, begun, startIndexed, value_eq, left⟩
  rcases Field.of_lastNamed? isLast with ⟨fieldMember, names⟩
  refine ⟨field, fun later further => ?_, fun child resolved => ?_⟩
  · rw [← names] at isLast ⊢
    exact (finds field fieldMember later further).trans isLast
  · -- A type that is found in the end was found already when the field was filled.
    have startSteady := ((steadies_instantiateField steadies field).run start).trans left
    have early := startSteady.resolve resolved
    rw [← value_eq]
    rcases run_instantiateField early with ⟨list, kind, run⟩ | ⟨structured, run⟩ |
      ⟨noList, run⟩ <;> rw [run] at left ⊢
    · exact (Store.fits_nil kind).of_steady left
    · exact nested field fieldMember child resolved start begun startIndexed structured left
    · exact (fits_defaultOrNull early noList).of_steady left

/-- Nested instances fit if it is settled what their keys mean. -/
def FitsNested (instantiate : TypeId → Action Value) (store last : Store) : Prop :=
  ∀ child, last.SettledThroughout child → ∀ start : Store, store.Steady start → start.Indexed →
    start.Structured child → ((instantiate child).run start).2.Steady last →
      last.Fits child ((instantiate child).run start).1

theorem fits_instantiate_complex (steadies : ∀ id, Steadies (instantiate id))
    (indexes : ∀ id, Preserves Store.Indexed (instantiate id)) {complex : ComplexType}
    (orderly : store.Orderly) (indexed : store.Indexed)
    (found : store.complexAt? id = some complex)
    (fields_eq : store.instanceFields id = complex.fields.values)
    (steady : ((instantiateFields instantiate complex.fields.values).run store).2.Steady last)
    (nested : FitsNested instantiate store last) (settled : last.SettledThroughout id) :
    last.Fits id ((instantiateFields instantiate complex.fields.values).run store).1 := by
  have lastSteady := ((steadies_instantiateFields steadies _).run store).trans steady
  have lastFields : last.instanceFields id = complex.fields.values :=
    (Store.instanceFields_later lastSteady.sameDeclared found).trans fields_eq
  rcases lastSteady.sameDeclared.complexAt? found with ⟨lastLookups, lastFound⟩
  have within : ∀ later, last.Steady later → ∃ lookups,
      later.complexAt? id = some { complex with lookups } :=
    fun later further => (lastSteady.trans further).sameDeclared.complexAt? found
  refine fits_instantiateFields steadies indexes indexed steady
    (fun field member child resolved =>
      nested child (settled.inside (lastFields ▸ member) resolved))
    (fun name => steadies_lookUp id name) (fun later further => ?_)
    fun field member later further => ?_
  · rcases within later further with ⟨lookups, laterFound⟩
    rw [run_conversionOf_complex laterFound]
  · rcases within later further with ⟨lookups, laterFound⟩
    have keyed := (orderly id complex found).keyed
    have names := (settled id (.self id)).complex _ lastFound field (lastFields ▸ member)
    rw [run_lookUp_orderly (orderly.consulted (lastSteady.trans further).consulted) laterFound]
    exact (keyed.find?_eq_last_iff ⟨field, member, rfl⟩).mpr names

theorem fits_instantiate_composite (steadies : ∀ id, Steadies (instantiate id))
    (indexes : ∀ id, Preserves Store.Indexed (instantiate id)) {composite : CompositeType}
    (indexed : store.Indexed) (found : store.compositeAt? id = some composite)
    (steady : ((instantiateFields instantiate ((snapshotOf id).run store).1.fields).run
      ((snapshotOf id).run store).2).2.Steady last)
    (nested : FitsNested instantiate store last) (settled : last.SettledThroughout id) :
    last.Fits id ((instantiateFields instantiate ((snapshotOf id).run store).1.fields).run
      ((snapshotOf id).run store).2).1 := by
  -- Nothing that comes later changes what the composite shows once it has been read.
  have read := (steadies_snapshotOf id).run store
  have readSteady := ((steadies_instantiateFields steadies _).run _).trans steady
  rcases compositeAt?_snapshotOf found with ⟨shown, shownFound, shown_eq, now⟩
  have lastFound := readSteady.current id shown shownFound now
  have merged_eq : shown.merged = ((snapshotOf id).run store).1 := by rw [shown_eq]
  have lastFields : last.instanceFields id = ((snapshotOf id).run store).1.fields :=
    (Store.instanceFields_composite lastFound).trans (congrArg Snapshot.fields merged_eq)
  have record : ∀ later, last.Steady later → ((conversionOf id).run later).1 =
      .record fun name => return ((snapshotOf id).run store).1.fieldsByName.get? name := by
    intro later further
    rw [run_conversionOf_composite (further.current id shown lastFound now),
      run_snapshotOf_later found (readSteady.trans further)]
  refine fits_instantiateFields steadies indexes (indexed_snapshotOf id store indexed) steady
    (fun field member child resolved start begun =>
      nested child (settled.inside (lastFields ▸ member) resolved) start (read.trans begun))
    (fun name => .pure _) record fun field member later further => ?_
  have names := (settled id (.self id)).composite _ lastFound field (lastFields ▸ member)
  rw [merged_eq] at names
  exact (indexed_shown indexed id).get?_eq_last names

/-- What a fresh instance holds is converted to itself, if wherever it has keys their fields
are settled. The induction is on the depth to which structured types are nested. -/
theorem fits_instantiateWithin (depth : Nat) (id : TypeId) (orderly : store.Orderly)
    (indexed : store.Indexed) (structured : store.Structured id)
    (steady : ((instantiateWithin depth id).run store).2.Steady last)
    (settled : last.SettledThroughout id) :
    last.Fits id ((instantiateWithin depth id).run store).1 := by
  induction depth generalizing id store with
  | zero => exact Store.fits_null last id
  | succ depth induction =>
      have steadies := steadies_instantiateWithin depth
      have indexes := keptByReads_indexed.instantiateWithin depth
      have nested : FitsNested (instantiateWithin depth) store last :=
        fun child childSettled start begun startIndexed childStructured left =>
          induction child (orderly.consulted begun.consulted) startIndexed childStructured left
            childSettled
      rcases structured with isSome | isSome
      · rcases Option.isSome_iff_exists.mp isSome with ⟨complex, found⟩
        rcases Store.type_of_complexAt? found with ⟨type, typeFound, kind⟩
        have fields_eq := Store.instanceFields_complex typeFound kind
        rw [run_instantiateWithin_complex typeFound kind] at steady ⊢
        split at steady
        next content =>
          rw [if_pos content]
          exact Store.fits_null last id
        next plain =>
          rw [if_neg plain] at fields_eq ⊢
          exact fits_instantiate_complex steadies indexes orderly indexed found fields_eq steady
            nested settled
      · rcases Option.isSome_iff_exists.mp isSome with ⟨composite, found⟩
        rw [run_instantiateWithin_composite found] at steady ⊢
        exact fits_instantiate_composite steadies indexes indexed found steady nested settled

end Action

namespace Attempt

/-- A fresh instance of a complex type has under each local name what the last field of this
name starts with, and the type finds this field there just if that is settled. Only a type for
content starts with null. Where it is settled for the type and all types nested there, the
instance is converted to itself, also after further looks. -/
theorem convert_fresh_instance (events : List Event) {id : TypeId} {complex : ComplexType}
    (found : (Store.initial.after events).complexAt? id = some complex) :
    let store := Store.initial.after events
    let fresh := ((Action.instantiate id).run store).1
    let after := ((Action.instantiate id).run store).2
    (fresh = .null ∧ (store.type? id).map (·.name.name) = some contentTypeName ∨
      ∃ table : Table String Value, fresh = .map table.entries ∧
        (∀ name, table.contains name = true ↔
          ∃ field ∈ complex.fields.values, field.localName = name) ∧
        ∀ name value, table.get? name = some value → ∃ last,
          Field.lastNamed? complex.fields.values name = some last ∧
          Action.StartsWith (Action.instantiateWithin store.types.size) store after last value ∧
          (((Action.lookUp id name).run after).1 = some last ↔ complex.Settles name)) ∧
    (after.SettledThroughout id →
      ∀ later, after.Steady later → ((convert fresh id).run.run later).1 = .ok fresh) := by
  intro store fresh after
  have orderly : store.Orderly := Store.orderly_after events
  have indexed : store.Indexed := Store.indexed_after events
  refine ⟨?_, fun settled => Action.fits_instantiateWithin _ id orderly indexed
    (.inl (Option.isSome_iff_exists.mpr ⟨complex, found⟩)) (.refl after) settled⟩
  rcases Store.type_of_complexAt? found with ⟨type, typeFound, kind⟩
  have run : (Action.instantiate id).run store = _ :=
    Action.run_instantiateWithin_complex typeFound kind store.types.size
  by_cases content : type.name.name = contentTypeName
  · rw [if_pos content] at run
    refine .inl ⟨congrArg Prod.fst run, ?_⟩
    rw [typeFound, Option.map_some, content]
  · rw [if_neg content] at run
    have steadies := Action.steadies_instantiateWithin store.types.size
    have indexes := Action.keptByReads_indexed.instantiateWithin store.types.size
    have steady : store.Steady after := by
      have kept := (Action.steadies_instantiateFields steadies complex.fields.values).run store
      rwa [← run] at kept
    have left : (((Action.instantiateFields (Action.instantiateWithin store.types.size)
        complex.fields.values).run store).2).Steady after := by
      rw [← run]
      exact .refl after
    rcases Action.run_instantiateFields steadies indexes complex.fields.values indexed left with
      ⟨table, made, keys, holds⟩
    rw [← run] at made
    refine .inr ⟨table, made, keys, fun name value held => ?_⟩
    rcases holds name value held with ⟨last, isLast, startsWith⟩
    rcases Field.of_lastNamed? isLast with ⟨member, names⟩
    rcases steady.sameDeclared.complexAt? found with ⟨lookups, stillFound⟩
    refine ⟨last, isLast, startsWith, ?_⟩
    rw [Action.run_lookUp_orderly (orderly.consulted steady.consulted) stillFound, ← isLast]
    exact (orderly id complex found).keyed.find?_eq_last_iff ⟨last, member, names⟩

/-- A type that declares a field of its base anew, with a part of the base's type and a list. -/
theorem convert_fresh_whole :
    let named (schema name : String) : TypeRef := .named Store.initial.registryId ⟨schema, name⟩
    let part : Blueprint := {
      name := ⟨"dc", "part"⟩
      body := .complex ⟨"", "p"⟩ none [
        { name := "title", valueType := named primitiveSchema "long", defaultText := some " 1 " },
        { name := "size", valueType := named primitiveSchema "long", defaultText := some "7" }] }
    let tags : Blueprint := {
      name := ⟨"dc", "tags"⟩
      body := .list (named primitiveSchema "string") none (some "a b") 0 0 }
    let whole : Blueprint := {
      name := ⟨"dc", "whole"⟩
      base := .direct ⟨8⟩ ⟨"dc", "part"⟩
      body := .complex ⟨"", "q"⟩ none [
        { name := "title", valueType := named primitiveSchema "string", defaultText := some "abc" },
        { name := "part", valueType := named "dc" "part" },
        { name := "tags", valueType := named "dc" "tags" }] }
    let store := Store.initial.after [.operate (.build part), .operate (.registerType ⟨8⟩),
      .operate (.build tags), .operate (.registerType ⟨9⟩), .operate (.build whole)]
    let fresh := ((Action.instantiate ⟨10⟩).run store).1
    let after := ((Action.instantiate ⟨10⟩).run store).2
    (fresh == .map [("title", .string "abc"), ("size", .long 7),
      ("part", .map [("title", .long 1), ("size", .long 7)]), ("tags", .list [])]) = true ∧
    ((convert fresh ⟨10⟩).run.run after).1 = .ok fresh := by
  intro named part tags whole store fresh after
  have isSome : (store.complexAt? ⟨10⟩).isSome = true := by decide +kernel
  rcases Option.isSome_iff_exists.mp isSome with ⟨complex, found⟩
  have made := convert_fresh_instance _ found
  let types := (List.range 11).map TypeId.mk
  have closed : ∀ type ∈ types, ∀ field ∈ after.instanceFields type,
      ∀ child ∈ after.resolve field.valueType, child ∈ types := by decide +kernel
  have settled : ∀ type ∈ types, after.NamesSettled type := by decide +kernel
  have member : (⟨10⟩ : TypeId) ∈ types := by decide +kernel
  exact ⟨by decide +kernel, made.2 (fun inner nests =>
    settled inner (nests.mem_of_closed closed member)) after (.refl after)⟩

/-- The own field of a type is found, though a later one of the same local name has filled the
fresh instance, which the type then refuses. -/
theorem convert_refuses_fresh_instance :
    let named (name : String) : TypeRef := .named Store.initial.registryId ⟨primitiveSchema, name⟩
    let schema : Blueprint := {
      name := ⟨"dc", "dc"⟩
      body := .complex ⟨"", "p"⟩ none [
        { name := "title", valueType := named "long" },
        { name := "q:title", valueType := named "string", defaultText := some "abc" }] }
    let store := Store.initial.after [.operate (.build schema)]
    let fresh := ((Action.instantiate ⟨8⟩).run store).1
    let after := ((Action.instantiate ⟨8⟩).run store).2
    (fresh == .map [("title", .string "abc")]) = true ∧
    ((Action.lookUp ⟨8⟩ "title").run after).1.map (·.name) = some ⟨"p", "title"⟩ ∧
    ((convert fresh ⟨8⟩).run.run after).1.map (fun _ => ()) =
      .error (.cannotConvert .string .long) := by
  intro named schema store fresh after
  refine ⟨?_, ?_, ?_⟩ <;> decide +kernel

end Attempt
end DocumentTypes
