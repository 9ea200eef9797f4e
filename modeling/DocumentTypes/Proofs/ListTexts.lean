import DocumentTypes.Proofs.ChainEnds
import DocumentTypes.Proofs.ItemTexts
import DocumentTypes.Proofs.Reconversion

/-! # Texts of lists

The items of a list are read and written one after the other by their type. A simple type looks
for its primitive at the first of them and remembers it for the others, so all items are treated
alike. -/

namespace DocumentTypes

namespace Store

variable {store : Store} {id item primitive other : TypeId} {trail : List TypeId}
  {list : ListType}

/-! ## Types that remember -/

theorem mem_held_remember (known : store.remembered? id = none ∨
    store.remembered? id = some primitive) {holder : TypeId} {type : DocumentType}
    (found : store.type? holder = some type) (member : other ∈ type.held) :
    ∃ later, (store.remember id primitive).type? holder = some later ∧ other ∈ later.held := by
  unfold remember
  cases simpleFound : store.simpleAt? id with
  | none => exact ⟨type, found, member⟩
  | some simple =>
      dsimp only
      rw [type?_setKind]
      split
      next same =>
        subst same
        rcases kind_of_simpleAt? simpleFound with ⟨same, sameFound, kind⟩
        cases found.symm.trans sameFound
        refine ⟨_, congrArg (Option.map _) found, ?_⟩
        rw [remembered?_eq_bind, simpleFound, Option.bind_some] at known
        simp only [DocumentType.held, kind, List.mem_append] at member ⊢
        rcases known with nothing | same
        · simp only [nothing, Option.toList_none, List.not_mem_nil, or_false] at member
          exact .inl member
        · rwa [same] at member
      next => exact ⟨type, found, member⟩

theorem Finds.mem_held (finds : store.Finds id trail primitive) {holder : TypeId}
    {type : DocumentType} (found : store.type? holder = some type) (member : other ∈ type.held) :
    ∃ later, (store.rememberAll trail primitive).type? holder = some later ∧
      other ∈ later.held := by
  induction finds with
  | primitive | remembered => exact ⟨type, found, member⟩
  | @searched id base primitive simple trail simpleFound unknown _ rest induction =>
      rcases induction with ⟨middle, middleFound, middleMember⟩
      have known : (store.rememberAll trail primitive).remembered? id = none ∨
          (store.rememberAll trail primitive).remembered? id = some primitive := by
        rw [rest.remembered?_rememberAll, remembered?_eq_bind, simpleFound, Option.bind_some,
          unknown]
        split
        · exact .inr rfl
        · exact .inl rfl
      exact mem_held_remember known middleFound middleMember

theorem Finds.resolve_rememberAll (finds : store.Finds id trail primitive) (reference : TypeRef) :
    (store.rememberAll trail primitive).resolve reference = store.resolve reference := by
  have same := sameDeclared_rememberAll store trail primitive
  cases reference with
  | null | named | schema | direct => exact same.resolve rfl
  | owner type target =>
      have alive : (store.rememberAll trail primitive).isAlive type = store.isAlive type := by
        -- What was alive still supports itself.
        have inside : ∀ other, store.isAlive other = true →
            other.position < (store.rememberAll trail primitive).types.size := by
          intro other alive
          rw [finds.loosened.size_eq]
          exact position_lt_of_isAlive alive
        have supports : ∀ other, store.isAlive other = true →
            other ∈ (store.rememberAll trail primitive).roots ∨ ∃ holder,
              store.isAlive holder = true ∧
                (store.rememberAll trail primitive).holdsType holder other = true := by
          intro other alive
          rw [finds.loosened.roots_eq]
          refine (support_of_isAlive alive).imp_right fun ⟨holder, holderAlive, holds⟩ => ?_
          rcases holdsType_iff.mp holds with ⟨type, found, member⟩
          exact ⟨holder, holderAlive, holdsType_iff.mpr (finds.mem_held found member)⟩
        rw [Bool.eq_iff_iff]
        exact ⟨finds.loosened.isAlive, isAlive_of_supported inside supports⟩
      rw [Store.resolve, Store.resolve, alive]

/-! ## Scalars -/

def Scalar (store : Store) (id : TypeId) : Prop :=
  ∃ type, store.type? id = some type ∧
    ((∃ kind, type.kind = .primitive kind) ∨ ∃ simple, type.kind = .simple simple)

def codec? (store : Store) (id : TypeId) : Option PrimitiveKind :=
  ((Action.codecOf id).run store).1

/-- The store when a type has looked for its primitive. -/
def recalling (store : Store) (id : TypeId) : Store := ((Action.codecOf id).run store).2

/-- What a text means to a scalar. One without primitive reads nothing. -/
def readAs (store : Store) (id : TypeId) (text : String) : Except Failure Value :=
  match store.codec? id with
  | some codec => codec.decode (some text)
  | none => .ok .null

theorem recalling_eq (store : Store) (id : TypeId) : store.recalling id = store ∨
    ∃ trail primitive, store.Finds id trail primitive ∧
      store.recalling id = store.rememberAll trail primitive := by
  rw [recalling, Action.run_codecOf]
  rcases Action.run_primitiveOf id store with ⟨trail, primitive, finds, run⟩ | ⟨run, -⟩
  · exact .inr ⟨trail, primitive, finds, by rw [run]⟩
  · exact .inl (by rw [run])

theorem run_codecOf_recalling (store : Store) (id : TypeId) :
    (Action.codecOf id).run (store.recalling id) = (store.codec? id, store.recalling id) := by
  refine Prod.ext (Action.codecOf_later (.refl _)) ?_
  change ((Action.codecOf id).run (store.recalling id)).2 = store.recalling id
  rw [Action.run_codecOf, recalling, Action.run_codecOf]
  rcases Action.run_primitiveOf id store with ⟨trail, primitive, finds, run⟩ | ⟨run, -⟩
  · rw [run, Action.run_primitiveOf_of_finds finds.recalled]
    rfl
  · rw [run, run]

theorem codec?_recalling (store : Store) (id : TypeId) :
    (store.recalling id).codec? id = store.codec? id :=
  congrArg Prod.fst (run_codecOf_recalling store id)

theorem recalling_recalling (store : Store) (id : TypeId) :
    (store.recalling id).recalling id = store.recalling id :=
  congrArg Prod.snd (run_codecOf_recalling store id)

theorem readAs_recalling (store : Store) (id : TypeId) :
    (store.recalling id).readAs id = store.readAs id := by
  funext text
  rw [readAs, readAs, codec?_recalling]

theorem codec?_of_derives {path : List TypeId} {kind : PrimitiveKind}
    (derives : store.Derives id path primitive) (found : store.primitiveAt? primitive = some kind)
    (same : ∀ other ∈ path, ∀ known ∈ store.remembered? other, known = primitive) :
    store.codec? id = some kind := by
  have finds := derives.finds
  have first : (path.findSome? store.remembered?).getD primitive = primitive := by
    cases known : path.findSome? store.remembered? with
    | none => rfl
    | some remembered =>
        rcases List.exists_of_findSome?_eq_some known with ⟨other, member, otherKnown⟩
        exact same other member remembered otherKnown
  rw [first] at finds
  rw [codec?, finds.run_codecOf found]

theorem resolve_recalling (store : Store) (id : TypeId) (reference : TypeRef) :
    (store.recalling id).resolve reference = store.resolve reference := by
  rcases store.recalling_eq id with same | ⟨trail, primitive, finds, same⟩
  · rw [same]
  · rw [same, finds.resolve_rememberAll]

theorem sameDeclared_recalling (store : Store) (id : TypeId) :
    store.SameDeclared (store.recalling id) :=
  ((Action.keptByConsulting_steady store).codecOf id store (.refl store)).sameDeclared

theorem Scalar.recalling (scalar : store.Scalar id) (other : TypeId) :
    (store.recalling other).Scalar id := by
  rcases scalar with ⟨type, found, kind⟩
  rcases (store.sameDeclared_recalling other).type? found with ⟨later, laterFound, -, kinds⟩
  refine ⟨later, laterFound, ?_⟩
  rcases later with ⟨name, base, flags, _ | _ | _ | _ | _⟩
  case primitive | simple => simp
  all_goals
    rcases kind with ⟨_, kind⟩ | ⟨_, kind⟩ <;>
      rw [kind] at kinds <;>
      cases kinds

theorem Scalar.run_decodeWithin (scalar : store.Scalar id) (depth : Nat) (text : String) :
    (Attempt.decodeWithin (depth + 1) id (some text)).run.run store =
      (store.readAs id text, store.recalling id) := by
  rcases scalar with ⟨type, found, ⟨_, kind⟩ | ⟨_, kind⟩⟩
  all_goals
    rw [Attempt.decodeWithin, Attempt.run_bind_type?, found, Option.map_some, kind]
    dsimp only
    rw [Attempt.run_bind, Attempt.run_lift, readAs, codec?, Store.recalling]
    cases ((Action.codecOf id).run store).1 <;> rfl

theorem Scalar.run_decode (scalar : store.Scalar id) (text : String) :
    (Attempt.decode id (some text)).run.run store = (store.readAs id text, store.recalling id) := by
  rw [Action.run_decode, scalar.run_decodeWithin]

theorem Scalar.run_encode (scalar : store.Scalar id) (value : Value) :
    (Action.encode value id).run store =
      ((store.codec? id).bind fun _ => PrimitiveKind.encode? value, store.recalling id) := by
  have run (encodeItems? : Option (TypeId → Action (Option (List String)))) :
      (Action.encodeWith encodeItems? value id).run store =
        ((store.codec? id).bind fun _ => PrimitiveKind.encode? value, store.recalling id) := by
    rcases scalar with ⟨type, found, ⟨_, kind⟩ | ⟨_, kind⟩⟩
    all_goals
      rw [Action.encodeWith, Action.run_bind, Action.run_type?, found, Option.map_some, kind]
      rfl
  cases value with
  | list | array => exact run (some _)
  | null | boolean | long | double | string | date | binary | map => exact run none

/-! ## Lists -/

structure ListOver (store : Store) (id : TypeId) (list : ListType) (item : TypeId) : Prop where
  kind : (store.type? id).map DocumentType.kind = some (.list list)
  item_eq : store.resolve list.item.valueType = some item

theorem ListOver.of_list? (found : (store.type? id).bind DocumentType.list? = some list)
    (item_eq : store.resolve list.item.valueType = some item) : store.ListOver id list item where
  kind := by
    rcases Option.bind_eq_some_iff.mp found with ⟨⟨name, base, flags, kind⟩, typeFound, isList⟩
    rw [typeFound]
    cases kind <;> cases isList
    rfl
  item_eq := item_eq

theorem ListOver.recalling (listed : store.ListOver id list item) (other : TypeId) :
    (store.recalling other).ListOver id list item where
  kind := by
    rcases Option.map_eq_some_iff.mp listed.kind with ⟨type, found, kind⟩
    rcases (store.sameDeclared_recalling other).type? found with ⟨later, laterFound, -, kinds⟩
    rw [kind] at kinds
    rw [laterFound, Option.map_some]
    rcases later with ⟨name, base, flags, _ | _ | _ | _ | _⟩ <;> cases kinds
    rfl
  item_eq := (store.resolve_recalling other _).trans listed.item_eq

end Store

namespace Attempt

variable {α β : Type} {store after : Store} {id item : TypeId} {list : ListType}

/-- Where only the first step changes anything, the steps answer one by one. -/
theorem run_mapM_settled {step : α → Attempt β} {answer : α → Except Failure β}
    (first : ∀ value, (step value).run.run store = (answer value, after))
    (again : ∀ value, (step value).run.run after = (answer value, after))
    {values : List α} (given : values ≠ []) :
    (values.mapM step).run.run store = (values.mapM answer, after) := by
  induction values generalizing store with
  | nil => exact absurd rfl given
  | cons value rest induction =>
      rw [List.mapM_cons, List.mapM_cons, run_bind, first value]
      cases answer value with
      | error failure => rfl
      | ok result =>
          have others : (rest.mapM step).run.run after = (rest.mapM answer, after) := by
            by_cases empty : rest = []
            · rw [empty]
              rfl
            · exact induction again empty
          dsimp only
          rw [run_bind, others]
          cases rest.mapM answer <;> rfl

theorem mapM_eq_ok_iff {answer : α → Except Failure β} {values : List α} {results : List β} :
    values.mapM answer = .ok results ↔
      List.Forall₂ (fun value result => answer value = .ok result) values results := by
  induction values generalizing results with
  | nil =>
      rw [List.mapM_nil, List.forall₂_nil_left_iff]
      exact ⟨fun same => (Except.ok.inj same).symm, fun same => same ▸ rfl⟩
  | cons value rest induction =>
      rw [List.mapM_cons, List.forall₂_cons_left_iff]
      constructor
      · intro same
        cases first : answer value with
        | error failure => rw [first] at same; cases same
        | ok result =>
            cases others : rest.mapM answer with
            | error failure => rw [first, others] at same; cases same
            | ok results =>
                rw [first, others] at same
                cases same
                exact ⟨result, results, rfl, induction.mp others, rfl⟩
      · rintro ⟨result, results, first, others, rfl⟩
        rw [first, induction.mpr others]
        rfl

theorem run_decode_list (listed : store.ListOver id list item) (scalar : store.Scalar item)
    (text : String) : (decode id (some text)).run.run store =
      (((splitItems text).mapM (store.readAs item)).map Value.array, store.recalling item) := by
  rcases Option.map_eq_some_iff.mp listed.kind with ⟨type, found, kind⟩
  rcases Nat.exists_eq_succ_of_ne_zero (Nat.ne_zero_of_lt (Store.position_lt found)) with
    ⟨depth, size⟩
  have parts : ((splitItems text).mapM fun part =>
      decodeWithin (depth + 1) item (some part)).run.run store =
        ((splitItems text).mapM (store.readAs item), store.recalling item) := by
    refine run_mapM_settled (scalar.run_decodeWithin depth) (fun part => ?_)
      (splitItems_ne_nil text)
    rw [(scalar.recalling item).run_decodeWithin, Store.readAs_recalling,
      Store.recalling_recalling]
  rw [Action.run_decode, run_decodeWithin_list found kind, listed.item_eq, size]
  dsimp only
  rw [run_bind, parts]
  cases (splitItems text).mapM (store.readAs item) <;> rfl

end Attempt

namespace Action

variable {store : Store} {id item : TypeId} {list : ListType} {kind : PrimitiveKind}
  {items : List Value} {texts : List String}

theorem run_encodeItems (scalar : store.Scalar item) (known : store.codec? item = some kind)
    (each : List.Forall₂ (fun value text => PrimitiveKind.encode? value = some text) items texts) :
    (encodeItems items item).run store =
      (some texts, if items = [] then store else store.recalling item) := by
  induction each generalizing store with
  | nil => rfl
  | @cons value text rest others first each induction =>
      have later : (store.recalling item).codec? item = some kind :=
        (store.codec?_recalling item).trans known
      have rests := induction (scalar.recalling item) later
      rw [store.recalling_recalling, ite_self] at rests
      rw [encodeItems, run_bind, scalar.run_encode, known, Option.bind_some, first]
      dsimp only
      rw [run_bind, rests, if_neg (List.cons_ne_nil value rest)]
      rfl

theorem run_encode_list (listed : store.ListOver id list item) (scalar : store.Scalar item)
    (known : store.codec? item = some kind)
    (each : List.Forall₂ (fun value text => PrimitiveKind.encode? value = some text) items texts)
    {given : Value} (sequence : given = .list items ∨ given = .array items) :
    (encode given id).run store =
      (some (joinItems texts), if items = [] then store else store.recalling item) := by
  have run : (encodeWith (some (encodeItems items)) given id).run store =
      (some (joinItems texts), if items = [] then store else store.recalling item) := by
    rw [encodeWith, run_bind, run_type?, listed.kind]
    dsimp only
    rw [run_bind, run_resolve, listed.item_eq]
    dsimp only
    rw [run_bind, run_encodeItems scalar known each]
    rfl
  rcases sequence with rfl | rfl <;> exact run

end Action

/-! ## Round trips -/

/-- The items of a list type are read and written by a primitive of the given kind, the one that
is found for their type. -/
def Store.ListsItems (store : Store) (id : TypeId) (kind : PrimitiveKind) : Prop :=
  ∃ list item primitive, store.ListOver id list item ∧
    ((Action.primitiveOf item).run store).1 = some primitive ∧
    store.primitiveAt? primitive = some kind

namespace Store.ListsItems

variable {store : Store} {id : TypeId} {kind : PrimitiveKind}

theorem codec (lists : store.ListsItems id kind) : ∃ list item, store.ListOver id list item ∧
    store.Scalar item ∧ store.codec? item = some kind := by
  rcases lists with ⟨list, item, primitive, listed, found, primitiveFound⟩
  rcases Action.run_primitiveOf item store with ⟨trail, other, finds, run⟩ | ⟨run, -⟩
  · rw [run] at found
    cases found
    refine ⟨list, item, listed, finds.kind, ?_⟩
    rw [codec?, finds.run_codecOf primitiveFound]
  · rw [run] at found
    cases found

theorem of_codec {list : ListType} {item : TypeId} (listed : store.ListOver id list item)
    (known : store.codec? item = some kind) : store.ListsItems id kind := by
  rw [codec?, Action.run_codecOf] at known
  rcases Option.bind_eq_some_iff.mp known with ⟨primitive, found, later⟩
  refine ⟨list, item, primitive, listed, found, ?_⟩
  rcases Action.run_primitiveOf item store with ⟨trail, other, -, run⟩ | ⟨run, -⟩
  · rw [run] at later
    exact (sameDeclared_rememberAll store trail other).symm.primitiveAt? later
  · rw [run] at found
    cases found

theorem of_derives {list : ListType} {item primitive : TypeId} {path : List TypeId}
    (listed : store.ListOver id list item) (derives : store.Derives item path primitive)
    (found : store.primitiveAt? primitive = some kind)
    (same : ∀ other ∈ path, ∀ known ∈ store.remembered? other, known = primitive) :
    store.ListsItems id kind :=
  of_codec listed (codec?_of_derives derives found same)

end Store.ListsItems

namespace Store

theorem readAs_eq_ok_iff {store : Store} {id : TypeId} {kind : PrimitiveKind}
    (known : store.codec? id = some kind) {text : String} {value : Value} :
    store.readAs id text = .ok value ↔ kind.read? text = some value := by
  rw [readAs, known]
  dsimp only
  rw [PrimitiveKind.decode]
  cases kind.read? text <;> simp

end Store

namespace Attempt

variable {store : Store} {id item : TypeId} {list : ListType} {kind : PrimitiveKind}
  {items : List Value}

theorem decode_eq_ok_iff (listed : store.ListOver id list item) (scalar : store.Scalar item)
    (known : store.codec? item = some kind) (text : String) :
    ((decode id (some text)).run.run store).1 = .ok (.array items) ↔
      List.Forall₂ (fun part value => kind.read? part = some value) (splitItems text) items := by
  have whole : ((splitItems text).mapM (store.readAs item)).map Value.array = .ok (.array items) ↔
      (splitItems text).mapM (store.readAs item) = .ok items := by
    cases (splitItems text).mapM (store.readAs item) <;> simp [Except.map]
  rw [run_decode_list listed scalar, whole, mapM_eq_ok_iff]
  simp only [Store.readAs_eq_ok_iff known]

/-- A list type over texts, truth values or whole numbers writes all items that its primitive
accepts, and reads back what it has written just if there is an item and no text among them
holds a blank. Over texts, it writes again whatever text it has read. -/
theorem decode_encode_list (rereads : kind ∈ PrimitiveKind.rereading)
    (lists : store.ListsItems id kind) :
    (∀ items : List Value, (∀ item ∈ items, item.isNull = false ∧ kind.validate item = true) →
      ∃ text after,
        (Action.encode (.list items) id).run store = (some text, after) ∧
        (Action.encode (.array items) id).run store = (some text, after) ∧
        after.ListsItems id kind ∧
        ∀ moment : Store, moment.ListsItems id kind →
          (((decode id (some text)).run.run moment).1 = .ok (.array items) ↔
            items ≠ [] ∧ ∀ content, .string content ∈ items → ' ' ∉ content.toList)) ∧
    (kind = .string → ∀ text, ∃ items after,
      (decode id (some text)).run.run store = (.ok (.array items), after) ∧
      after.ListsItems id kind ∧ ((Action.encode (.array items) id).run after).1 = some text) := by
  rcases lists.codec with ⟨list, item, listed, scalar, known⟩
  have later : (store.recalling item).ListsItems id kind :=
    .of_codec (listed.recalling item) ((store.codec?_recalling item).trans known)
  constructor
  · intro items valid
    rcases PrimitiveKind.exists_texts rereads valid with ⟨texts, written, reread, plain⟩
    refine ⟨joinItems texts, _, Action.run_encode_list listed scalar known written (.inl rfl),
      Action.run_encode_list listed scalar known written (.inr rfl), ?_, ?_⟩
    · split
      · exact lists
      · exact later
    · intro moment momentLists
      rcases momentLists.codec with ⟨_, _, momentListed, momentScalar, momentKnown⟩
      have given : texts ≠ [] ↔ items ≠ [] := by
        rw [← List.length_pos_iff, ← written.length_eq, List.length_pos_iff]
      rw [decode_eq_ok_iff momentListed momentScalar momentKnown, forall₂_splitItems_iff reread,
        given, plain]
      rfl
  · rintro rfl text
    have read : List.Forall₂ (fun part value => PrimitiveKind.string.read? part = some value)
        (splitItems text) ((splitItems text).map Value.string) :=
      List.forall₂_map_right_iff.mpr (List.forall₂_same.mpr fun _ _ => rfl)
    have written : List.Forall₂ (fun value text => PrimitiveKind.encode? value = some text)
        ((splitItems text).map Value.string) (splitItems text) :=
      List.forall₂_map_left_iff.mpr (List.forall₂_same.mpr fun _ _ => rfl)
    have answer := (decode_eq_ok_iff listed scalar known text).mpr read
    refine ⟨(splitItems text).map Value.string, store.recalling item, ?_, later, ?_⟩
    · exact Prod.ext answer (by rw [run_decode_list listed scalar])
    · have again := Action.run_encode_list (listed.recalling item) (scalar.recalling item)
        ((store.codec?_recalling item).trans known) written (.inr rfl)
      rw [again, joinItems_splitItems]

/-- Two words and two blanks between them. -/
theorem decode_encode_list_of_words :
    let word : Blueprint := {
      name := ⟨"dc", "word"⟩
      base := .direct ⟨0⟩ ⟨primitiveSchema, "string"⟩
      body := .simple [] }
    let words : Blueprint := {
      name := ⟨"dc", "words"⟩
      body := .list (.direct ⟨8⟩ ⟨"dc", "word"⟩) none none 0 unbounded }
    let store := Store.initial.after [.operate (.build word), .operate (.build words)]
    PrimitiveKind.string ∈ PrimitiveKind.rereading ∧ store.ListsItems ⟨9⟩ .string ∧
    (∃ text after, (Action.encode (.list [.string "a", .string ""]) ⟨9⟩).run store =
        (some text, after) ∧
      ((decode ⟨9⟩ (some text)).run.run after).1 = .ok (.array [.string "a", .string ""])) ∧
    (∃ text after, (Action.encode (.array [.string "a b"]) ⟨9⟩).run store = (some text, after) ∧
      ((decode ⟨9⟩ (some text)).run.run after).1 ≠ .ok (.array [.string "a b"])) ∧
    ∃ items after, (decode ⟨9⟩ (some " a  b")).run.run store = (.ok (.array items), after) ∧
      ((Action.encode (.array items) ⟨9⟩).run after).1 = some " a  b" := by
  intro word words store
  have isSome : ((store.type? ⟨9⟩).bind DocumentType.list?).isSome = true := by decide +kernel
  rcases Option.isSome_iff_exists.mp isSome with ⟨list, found⟩
  have resolved : ∀ list ∈ (store.type? ⟨9⟩).bind DocumentType.list?,
      store.resolve list.item.valueType = some ⟨8⟩ := by decide +kernel
  have isString : store.primitiveAt? ⟨0⟩ = some .string := by decide +kernel
  have derives : store.Derives ⟨8⟩ [⟨8⟩] ⟨0⟩ :=
    .of_base (by decide +kernel) (by decide +kernel) (by decide +kernel) (.primitive isString)
  have lists : store.ListsItems ⟨9⟩ .string :=
    .of_derives (.of_list? found (resolved list found)) derives isString (by decide +kernel)
  have rereads : PrimitiveKind.string ∈ PrimitiveKind.rereading := by decide
  rcases decode_encode_list rereads lists with ⟨reread, rewritten⟩
  refine ⟨rereads, lists, ?_, ?_, ?_⟩
  · rcases reread [.string "a", .string ""] (by simp [Value.isNull, PrimitiveKind.validate]) with
      ⟨text, after, written, -, later, read⟩
    exact ⟨text, after, written, (read after later).mpr ⟨by simp, by simp⟩⟩
  · rcases reread [.string "a b"] (by simp [Value.isNull, PrimitiveKind.validate]) with
      ⟨text, after, -, written, later, read⟩
    refine ⟨text, after, written, fun same => ?_⟩
    exact ((read after later).mp same).2 "a b" (by simp) (by decide)
  · rcases rewritten rfl " a  b" with ⟨items, after, read, -, written⟩
    exact ⟨items, after, read, written⟩

/-- When a name comes to mean a text, the items go on being read as numbers, and a word that is
valid for the type at the end of their chain is not read back. -/
theorem decode_encode_list_after_redefinition :
    let simple (name : String) (base : TypeRef) : Blueprint := {
      name := ⟨"dc", name⟩
      base
      body := .simple [] }
    let counts : Blueprint := {
      name := ⟨"dc", "counts"⟩
      body := .list (.direct ⟨9⟩ ⟨"dc", "count"⟩) none none 0 unbounded }
    let store := Store.initial.after [
      .operate (.build (simple "size" (.direct ⟨3⟩ ⟨primitiveSchema, "long"⟩))),
      .operate (.registerType ⟨8⟩),
      .operate (.build (simple "count" (.named Store.initial.registryId ⟨"dc", "size"⟩))),
      .ask (.decode ⟨9⟩ (some "7")),
      .operate (.build (simple "size" (.direct ⟨0⟩ ⟨primitiveSchema, "string"⟩))),
      .operate (.registerType ⟨10⟩), .operate (.build counts)]
    (∀ list ∈ (store.type? ⟨11⟩).bind DocumentType.list?,
      store.resolve list.item.valueType = some ⟨9⟩) ∧
    store.Derives ⟨9⟩ [⟨9⟩, ⟨10⟩] ⟨0⟩ ∧ store.primitiveAt? ⟨0⟩ = some .string ∧
    PrimitiveKind.string.validate (.string "a") = true ∧
    ((Action.encode (.array [.string "a"]) ⟨11⟩).run store).1 = some "a" ∧
    ((decode ⟨11⟩ (some "a")).run.run store).1.map (fun _ => ()) =
      .error (.undecodable "a" .long) := by
  intro simple counts store
  have derives : store.Derives ⟨9⟩ [⟨9⟩, ⟨10⟩] ⟨0⟩ :=
    .of_base (by decide +kernel) (by decide +kernel) (by decide +kernel)
      (.of_base (by decide +kernel) (by decide +kernel) (by decide +kernel)
        (.primitive (show _ = some PrimitiveKind.string by decide +kernel)))
  refine ⟨by decide +kernel, derives, ?_, rfl, ?_, ?_⟩ <;> decide +kernel

end Attempt
end DocumentTypes
