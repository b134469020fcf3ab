import MultipartUpload.Proofs.Memory.Grant
import MultipartUpload.Proofs.Memory.Reachable

/-!
# Runs of stores

A run takes a store through actions, one after another. Its transcript lists the requests among them
with their replies. An action that is no request prepares a store for requests to come, and so does
the arrival of a request. What preparations keep, and what holds again after every effect of a
request, holds after every run.
-/

namespace MultipartUpload

/-- A name that is accepted is kept as it is. -/
theorem ContainerName.text_of_ofString {s : String} {name : ContainerName}
    (h : ofString s = .ok name) : name.text = s := by
  simp only [ofString] at h
  split_ifs at h
  cases h
  rfl

namespace Store

/-- The store after actions that are taken one after another. -/
def run (store : Store) (actions : List Action) : Store :=
  actions.foldl act store

/-- The request that an action makes, with the reply to it. -/
def exchange? (store : Store) : Action → Option Exchange
  | .request request => some ⟨request, (store.answer request).1⟩
  | _ => none

/-- The requests of a run with the replies to them, in their order. -/
def transcript (store : Store) : List Action → List Exchange
  | [] => []
  | action :: rest => (store.exchange? action).toList ++ (store.act action).transcript rest

variable {start store next : Store} {name : String}

theorem run_append (store : Store) (first second : List Action) :
    store.run (first ++ second) = (store.run first).run second := by
  rw [run, run, run, List.foldl_append]

/-- The stores that are reached are those at the ends of runs. -/
theorem reachable_iff_exists_run : store.Reachable ↔
    ∃ c lag spelling actions, store = (empty c lag spelling).run actions := by
  constructor
  · intro h
    induction h with
    | empty c lag spelling => exact ⟨c, lag, spelling, [], rfl⟩
    | step _ action ih =>
      obtain ⟨c, lag, spelling, actions, rfl⟩ := ih
      refine ⟨c, lag, spelling, actions ++ [action], ?_⟩
      rw [run_append]
      rfl
  · rintro ⟨c, lag, spelling, actions, rfl⟩
    induction actions using List.reverseRecOn with
    | nil => exact .empty c lag spelling
    | append_singleton actions action ih =>
      rw [run_append]
      exact .step ih action

theorem transcript_append (store : Store) (first second : List Action) :
    store.transcript (first ++ second) =
      store.transcript first ++ (store.run first).transcript second := by
  induction first generalizing store with
  | nil => rfl
  | cons action rest ih =>
    rw [List.cons_append, transcript, transcript, ih, List.append_assoc]
    rfl

/-! ## Preparations -/

/-- What can happen to a store apart from the effects of requests. -/
structure Prepares (store next : Store) : Prop where
  lag : next.lag = store.lag
  containers : ∀ name ∈ store.containers, name ∈ next.containers
  object? : ∀ container key, next.object? container key = store.object? container key
  uploads : next.uploads = store.uploads
  spelling : next.spelling = store.spelling
  issued : next.issued = store.issued

theorem met_prepares (store : Store) (request : Request) : store.Prepares (store.met request) where
  lag := met_lag
  containers := by simp
  object? := object?_congr met_containers
  uploads := met_uploads
  spelling := met_spelling
  issued := met_issued

theorem act_createContainer_prepares (store : Store) (name : String) :
    store.Prepares (store.act (.createContainer name)) := by
  simp only [act, createContainer]
  rcases ContainerName.ofString name with e | name
  · exact ⟨rfl, fun _ ↦ id, fun _ _ ↦ rfl, rfl, rfl, rfl⟩
  · refine ⟨rfl, ?_, ?_, rfl, rfl, rfl⟩
    · intro other hother
      simp [Except.toOption, hother]
    · intro container key
      -- a container that is new has no objects
      simp only [Except.toOption, Option.getD_some, object?, Std.ExtTreeMap.getElem?_insertIfNew]
      split_ifs with hnew
      · obtain ⟨hname, hnew⟩ := hnew
        rw [Std.compare_eq_iff_eq] at hname
        rw [← hname, Std.ExtTreeMap.getElem?_eq_none hnew]
        rfl
      · rfl

/-- An action that is no request is a preparation. -/
theorem act_prepares (store : Store) (action : Action) :
    (∃ request, action = .request request) ∨
      store.exchange? action = none ∧ store.Prepares (store.act action) := by
  cases action with
  | request request => exact .inl ⟨request, rfl⟩
  | createContainer name => exact .inr ⟨rfl, store.act_createContainer_prepares name⟩
  | failInitiate | failPart | failComplete | failAbort =>
    exact .inr ⟨rfl, rfl, fun _ ↦ id, fun _ _ ↦ rfl, rfl, rfl, rfl⟩

theorem Issued.prepares (h : store.Issued) (hnext : store.Prepares next) : next.Issued := by
  rw [Issued, hnext.uploads, hnext.spelling, hnext.issued]
  exact h

theorem HasIssued.prepares {id : String} (h : store.HasIssued id) (hnext : store.Prepares next) :
    next.HasIssued id := by
  rw [HasIssued, hnext.spelling, hnext.issued]
  exact h

/-- What holds at the start, is kept by preparations and holds again after every effect holds after
every run. -/
theorem run_keeps {p : List Exchange → Store → Prop} (hstart : p [] start)
    (hprepares : ∀ {log store next}, store.Prepares next → p log store → p log next)
    (heffect : ∀ {log store request reply next}, Effect store request reply next →
      p log store → p (log ++ [⟨request, reply⟩]) next)
    (actions : List Action) : p (start.transcript actions) (start.run actions) := by
  induction actions using List.reverseRecOn with
  | nil => exact hstart
  | append_singleton actions action ih =>
    rw [run_append, transcript_append]
    generalize start.run actions = store at ih ⊢
    generalize start.transcript actions = log at ih ⊢
    rcases store.act_prepares action with ⟨request, rfl⟩ | ⟨hsilent, hnext⟩
    · exact heffect (store.answer_effect request) (hprepares (store.met_prepares request) ih)
    · simp only [transcript, hsilent, Option.toList_none, List.append_nil]
      exact hprepares hnext ih

/-! ## Containers -/

theorem Effect.mem_containers {request : Request} {reply : Reply}
    (h : Effect store request reply next) : name ∈ next.containers ↔ name ∈ store.containers := by
  cases h with
  | refused | begun | hidden | stored | aborted => rfl
  | completed | put => exact Std.ExtTreeMap.mem_modify

theorem mem_containers_act (action : Action) : name ∈ (store.act action).containers ↔
    name ∈ store.containers ∨
      action = .createContainer name ∧ ∃ accepted, ContainerName.ofString name = .ok accepted := by
  cases action with
  | createContainer other =>
    simp only [act, createContainer, Action.createContainer.injEq]
    rcases hname : ContainerName.ofString other with e | accepted
    · have hrefused : ¬(other = name ∧ ∃ accepted, ContainerName.ofString name = .ok accepted) := by
        rintro ⟨rfl, accepted, haccepted⟩
        rw [hname] at haccepted
        cases haccepted
      simp [Except.toOption, hrefused]
    · have htext := ContainerName.text_of_ofString hname
      simp only [Except.toOption, Option.getD_some, Std.ExtTreeMap.mem_insertIfNew, htext,
        Std.compare_eq_iff_eq]
      constructor
      · rintro (rfl | hmem)
        · exact .inr ⟨rfl, accepted, hname⟩
        · exact .inl hmem
      · rintro (hmem | ⟨rfl, -⟩)
        · exact .inr hmem
        · exact .inl rfl
  | failInitiate | failPart | failComplete | failAbort =>
    simp [act, failInitiate, failPart, failComplete, failAbort]
  | request request =>
    rw [act, (store.answer_effect request).mem_containers, met_containers]
    simp

/-- The containers of a run are those that were created in it, under names that are allowed. -/
theorem mem_containers_run (actions : List Action) : name ∈ (store.run actions).containers ↔
    name ∈ store.containers ∨ .createContainer name ∈ actions ∧
      ∃ accepted, ContainerName.ofString name = .ok accepted := by
  induction actions generalizing store with
  | nil => simp [run]
  | cons action rest ih =>
    change name ∈ ((store.act action).run rest).containers ↔ _
    rw [ih, mem_containers_act, List.mem_cons, or_assoc, ← or_and_right, eq_comm]

end Store

end MultipartUpload
