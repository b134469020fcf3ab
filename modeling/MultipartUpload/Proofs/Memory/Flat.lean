import MultipartUpload.Proofs.Memory.Run

/-!
# Containers and objects side by side

A store keeps the objects of a container with the container. Here they are seen as two tables, of
the names of containers and of the objects under a container and a key, which know nothing of each
other: an object is put into the one, whether or not the other has its container. Every action on a
store does to the tables what it would do if they were kept so. That objects lie in containers is
then due to the requests, which are refused before they put an object anywhere else.
-/

namespace MultipartUpload

/-- The names of containers, and the objects under a container and a key. -/
@[ext]
structure Tables where
  containers : Set String
  objects : String × String → Option StoredObject

namespace Tables

def create (tables : Tables) (name : String) : Tables :=
  { tables with containers := insert name tables.containers }

/-- Puts an object under a container and its key, and asks for no container. -/
def put (tables : Tables) (container : String) (object : StoredObject) : Tables :=
  { tables with
    objects := Function.update tables.objects (container, object.key) (some object) }

@[simp]
theorem put_containers (tables : Tables) (container : String) (object : StoredObject) :
    (tables.put container object).containers = tables.containers := rfl

@[simp]
theorem put_objects (tables : Tables) (container : String) (object : StoredObject) :
    (tables.put container object).objects =
      Function.update tables.objects (container, object.key) (some object) := rfl

/-- What an action can do to the tables. -/
inductive Step : Tables → Tables → Prop where
  | unchanged (tables : Tables) : Step tables tables
  | created (tables : Tables) (name : String) : Step tables (tables.create name)
  | put {tables : Tables} {container : String} (object : StoredObject)
      (hcontainer : container ∈ tables.containers) : Step tables (tables.put container object)

/-- Every object lies in a container. -/
def Housed (tables : Tables) : Prop :=
  ∀ container key object, tables.objects (container, key) = some object →
    container ∈ tables.containers

variable {tables next : Tables}

theorem Step.housed (h : Step tables next) (hhoused : tables.Housed) : next.Housed := by
  intro container key object hobject
  cases h with
  | unchanged => exact hhoused container key object hobject
  | created name => exact .inr (hhoused container key object hobject)
  | @put container' object' hcontainer =>
    by_cases hsame : (container, key) = (container', object'.key)
    · obtain ⟨rfl, -⟩ := Prod.mk.inj hsame
      exact hcontainer
    · rw [put_objects, Function.update_of_ne hsame] at hobject
      exact hhoused container key object hobject

end Tables

namespace Store

/-- The tables of a store. -/
def tables (store : Store) : Tables where
  containers := {name | name ∈ store.containers}
  objects place := store.object? place.1 place.2

variable {store next : Store} {container name : String} {request : Request} {reply : Reply}

@[simp]
theorem mem_tables_containers : name ∈ store.tables.containers ↔ name ∈ store.containers :=
  Iff.rfl

theorem tables_congr (h : next.containers = store.containers) : next.tables = store.tables := by
  simp only [tables, object?, h]

/-- Placing an object in a container that exists is putting it into the table. -/
theorem tables_place (hcontainer : container ∈ store.containers) (object : StoredObject) :
    (store.place container object).tables = store.tables.put container object := by
  ext1
  · ext name
    exact Std.ExtTreeMap.mem_modify
  · funext place
    simp only [tables, Tables.put, object?_place hcontainer, Function.update_apply,
      Prod.ext_iff, eq_comm]

/-- Creating a container adds a name, and no object comes with it. -/
theorem tables_createContainer (h : store.createContainer name = .ok next) :
    next.tables = store.tables.create name := by
  have hprepares := store.act_createContainer_prepares name
  rw [act, h] at hprepares
  rcases haccepted : ContainerName.ofString name with e | accepted
  · rw [createContainer, haccepted] at h
    cases h
  · rw [createContainer, haccepted] at h
    obtain rfl := Except.ok.inj h
    ext1
    · ext other
      change other ∈ store.containers.insertIfNew accepted.text ∅ ↔ _
      rw [Std.ExtTreeMap.mem_insertIfNew, Std.compare_eq_iff_eq,
        ContainerName.text_of_ofString haccepted, eq_comm]
      rfl
    · funext place
      exact hprepares.object? place.1 place.2

/-- The objects of a container are as many as there are keys under it. -/
theorem objectCount_eq_ncard (store : Store) (container : String) :
    store.objectCount container =
      {key | (store.tables.objects (container, key)).isSome}.ncard := by
  simp only [objectCount, tables, object?]
  rcases store.containers[container]? with - | objects
  · simp
  · have hkeys : {key | objects[key]?.isSome} = (objects.keys.toFinset : Set String) := by
      ext key
      simp
    rw [Option.map_some, Option.getD_some]
    simp only [Option.bind_some, hkeys, Set.ncard_coe_finset]
    rw [List.toFinset_card_of_nodup Std.ExtTreeMap.nodup_keys, Std.ExtTreeMap.length_keys]

/-- A request leaves the tables as they are, or it is granted and has put an object into them. -/
theorem Effect.tables (h : Effect store request reply next) : next.tables = store.tables ∨
    ∃ object, request.container ∈ store.containers ∧ reply = .ok object.etag ∧
      next.tables = store.tables.put request.container object := by
  cases h with
  | refused | begun | hidden | stored | aborted => exact .inl rfl
  | completed hcontainer hmanifest hupload hparts =>
    exact .inr ⟨_, hcontainer, rfl, tables_place hcontainer _⟩
  | put hcontainer hdata => exact .inr ⟨_, hcontainer, rfl, tables_place hcontainer _⟩

theorem tables_act (store : Store) (action : Action) :
    Tables.Step store.tables (store.act action).tables := by
  cases action with
  | createContainer name =>
    rcases hname : store.createContainer name with e | next
    · simp only [act, hname]
      exact .unchanged _
    · simp only [act, hname, Except.toOption, Option.getD_some, tables_createContainer hname]
      exact .created _ _
  | failInitiate | failPart | failComplete | failAbort => exact .unchanged _
  | request request =>
    have hmet : (store.met request).tables = store.tables := tables_congr met_containers
    rcases (store.answer_effect request).tables with hsame | ⟨object, hcontainer, -, hput⟩
    · rw [act, hsame, hmet]
      exact .unchanged _
    · rw [act, hput, hmet]
      exact .put object (by simpa using hcontainer)

/-- After every run from an empty store all objects lie in containers. -/
theorem housed_run (c : Config) (lag : ℕ) (spelling : UploadId.Spelling)
    (actions : List Action) : ((empty c lag spelling).run actions).tables.Housed := by
  induction actions using List.reverseRecOn with
  | nil =>
    intro container key object hobject
    simp [run, empty, tables, object?] at hobject
  | append_singleton actions action ih =>
    rw [run_append]
    exact (tables_act _ action).housed ih

end Store

end MultipartUpload
