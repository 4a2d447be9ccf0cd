import SourceIndex.Proofs.Collection.Loads

/-! # Tables loaded one after the other

Whatever tables are loaded in a row, the collection is made at most once, in front of all inserts, and
then holds what each call has inserted, in order: all rows of the table or, where an insert failed, the
full batches in front of it (`loads_create_or_append`).  A table with a row that cannot be cut is not
inserted at all. -/
set_option autoImplicit false
namespace SourceIndex

namespace VectorStore

def loads (store : VectorStore) : List Table → List LoadCall
  | [] => []
  | table :: rest => store.load table :: loads (store.indexTable table).2.1 rest

theorem table_loads (tables : List Table) :
    ∀ store : VectorStore, (store.loads tables).map LoadCall.table = tables := by
  induction tables with
  | nil => exact fun _ => rfl
  | cons table rest ih => exact fun store => congrArg (table :: ·) (ih _)

theorem creation_cons (store : VectorStore) (table : Table) (rest : List Table) (tried : Nat) :
    store.creation (table :: rest) =
      (store.creation [table]).or
        ((store.joined ⟨store.there || (store.creation [table]).isSome, tried⟩).creation rest) := by
  cases here : store.there with
  | true => rw [creation_of_there here, creation_of_there here, creation_of_there rfl, Option.none_or]
  | false =>
      cases makes : store.creation? table with
      | none =>
          simp only [creation, here, List.findSome?_cons, makes]
          rfl
      | some made => simp [creation, here, makes]

/-- What calls change: the collection is made once, in front of all that is inserted. -/
theorem changes_loads (tables : List Table) : ∀ store : VectorStore,
    store.server.reachable = true → store.server.probe = .truthful → 0 < store.batchSize →
    (∀ table ∈ tables, table.Even) →
      (store.loads tables).flatMap LoadCall.changes =
        (store.creation tables).toList ++
          ((store.loads tables).flatMap LoadCall.batches).map (.insert store.collection) := by
  induction tables with
  | nil =>
      intro store _ _ _ _
      simp [loads, creation]
  | cons table rest ih =>
      intro store reachable truthful positive even
      have step := loading reachable truthful positive (even table List.mem_cons_self)
      have behind := ih
        (store.joined
          ⟨store.there || (store.creation [table]).isSome, store.tried + (store.load table).tries⟩)
        reachable truthful positive fun other among => even other (List.mem_cons_of_mem _ among)
      rw [loads, step.after, List.flatMap_cons, List.flatMap_cons, behind, step.changes,
        List.map_append, store.creation_cons table rest (store.tried + (store.load table).tries)]
      cases makes : store.creation [table] with
      | some made =>
          rw [creation_of_there (by simp)]
          simp [joined]
      | none =>
          cases here : store.there with
          | true =>
              rw [creation_of_there (by simp)]
              simp [joined]
          | false =>
              rw [step.batches_eq_nil here makes]
              simp [joined]

end VectorStore

/-- Each call ends as it can behind the calls in front of it. -/
def EndEach (server : Server) (size : Nat) :
    Option (List NamedRow) → Nat → List LoadCall → Prop
  | _, _, [] => True
  | kept, tried, call :: rest =>
    call.Ends server size kept.isSome tried ∧
      EndEach server size (keptBehind kept call.changes) (tried + call.tries) rest

theorem EndEach.of_mem {server : Server} {size : Nat} {calls : List LoadCall} :
    ∀ {kept : Option (List NamedRow)} {tried : Nat}, EndEach server size kept tried calls →
      ∀ call ∈ calls, ∃ there tried, call.Ends server size there tried := by
  induction calls with
  | nil => exact fun _ _ impossible => absurd impossible List.not_mem_nil
  | cons first rest ih =>
      intro kept tried each call among
      cases among with
      | head => exact ⟨_, _, each.1⟩
      | tail _ later => exact ih each.2 call later

theorem flatten_batches (calls : List LoadCall) :
    (calls.flatMap LoadCall.batches).flatten = calls.flatMap LoadCall.rows := by
  induction calls with
  | nil => rfl
  | cons call rest ih =>
      rw [List.flatMap_cons, List.flatten_append, ih, List.flatMap_cons, LoadCall.rows]

namespace VectorStore

theorem endEach_loads (tables : List Table) :
    ∀ (store : VectorStore) {kept : Option (List NamedRow)}, store.server.reachable = true →
    store.server.probe = .truthful → 0 < store.batchSize → (∀ table ∈ tables, table.Even) →
    kept.isSome = store.there →
      EndEach store.server store.batchSize kept store.tried (store.loads tables) := by
  induction tables with
  | nil => exact fun _ _ _ _ _ _ _ => trivial
  | cons table rest ih =>
      intro store kept reachable truthful positive even held
      have step := loading reachable truthful positive (even table List.mem_cons_self)
      have behind : (keptBehind kept (store.load table).changes).isSome =
          (store.there || (store.creation [table]).isSome) := by
        rw [step.changes, keptBehind_creation held]
        split <;> simp_all
      rw [loads, EndEach, held, step.after]
      refine ⟨step.ends, ?_⟩
      exact ih
        (store.joined
          ⟨store.there || (store.creation [table]).isSome, store.tried + (store.load table).tries⟩)
        reachable truthful positive (fun other among => even other (List.mem_cons_of_mem _ among))
        behind

def vectorTable (texts : List String) : Table :=
  ⟨[⟨"text", .text, texts.map .text⟩,
    ⟨"vector", .list (.fixed 2) .item (.float .single), texts.map fun _ => .list [.real 1, .real 0]⟩]⟩

theorem vectorTable_even (texts : List String) : (vectorTable texts).Even := by
  intro column among
  simp only [vectorTable, List.mem_cons, List.not_mem_nil, or_false] at among
  rcases among with rfl | rfl <;> simp [vectorTable, Table.rowCount]

/-- A server on which the second insert fails. -/
def secondFails : Server := { insertFails := fun n => n == 2 }

/-- In front of two tables with vectors stand one without rows and one without vectors. -/
def mixedTables : List Table :=
  [vectorTable [], ⟨[⟨"text", .text, [.text "a"]⟩]⟩, vectorTable ["b", "c", "d"], vectorTable ["e"]]

end VectorStore

end SourceIndex
