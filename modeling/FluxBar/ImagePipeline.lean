import FluxBar.Library.Dictionary
import FluxBar.Library.Places
import FluxBar.Library.SingleFlight

/-! `ImagePipeline` of the macOS client, which loads the images of articles. It is an actor: what
a call does between two suspensions is one step. A load is a task of its own that all calls for
its address wait for, and the image cache may evict what it holds at any time. -/
namespace FluxBar.Client
open Transition Relational SingleFlight Places

/-- A task of `image`, with the result it ended in: an image, or an error. -/
structure ImageLoad (α : Type) where
  url : String
  result : Option (Option α)
  deriving DecidableEq, Repr

/-- Where a call of `image` stands. A task is given by its place among all created. -/
inductive ImagePhase (α : Type) where
  | entering
  | awaiting (load : Nat)
  -- the call that created the task
  | leading (load : Nat)
  -- an image, or an error thrown
  | ended (image : Option α)
  deriving DecidableEq, Repr

/-- A call of `image(at:)`, and where it stands. -/
structure ImageCall (α : Type) where
  url : String
  phase : ImagePhase α
  deriving DecidableEq, Repr

/-- `ImagePipeline`, its tasks and its calls. The last three fields are history: the addresses
loaded, those of the loads that failed, and those of the images evicted. -/
structure ImagePipeline (α : Type) where
  images : Dictionary String α
  loads : Dictionary String Nat
  tasks : List (ImageLoad α)
  calls : List (ImageCall α)
  requested : List String
  failed : List String
  evicted : List String

namespace ImagePipeline
variable {α : Type} (pipeline : ImagePipeline α) (url : String)

def new : ImagePipeline α := ⟨.empty, .empty, [], [], [], [], []⟩

/-- The result a task has ended in. -/
def result? (load : Nat) : Option (Option α) := (pipeline.tasks[load]?).bind ImageLoad.result

/-- A call up to its suspension: an image kept is returned, a task under way is awaited, and
otherwise the call creates one. -/
def enter : ImagePipeline α × ImagePhase α :=
  match pipeline.images.get? url with
  | some image => (pipeline, .ended (some image))
  | none =>
    match pipeline.loads.get? url with
    | some load => (pipeline, .awaiting load)
    | none =>
      let load := pipeline.tasks.length
      ({ pipeline with
          loads := pipeline.loads.revise url fun _ => some load
          tasks := pipeline.tasks ++ [⟨url, none⟩]
          requested := url :: pipeline.requested }, .leading load)

/-- The call that created the task, once the task has ended: the image goes into the cache, and
the deferred statement takes the task out of `loads`. -/
def settle (result : Option α) : ImagePipeline α :=
  let loads := pipeline.loads.filterKeys fun other => other ≠ url
  match result with
  | some image => { pipeline with images := pipeline.images.revise url fun _ => some image, loads }
  | none => { pipeline with loads, failed := url :: pipeline.failed }

/-- The steps of a call, which the actor takes one at a time, with others in between. -/
inductive Move : ImagePhase α → ImagePipeline α → ImagePhase α → Prop where
  | enter : Move .entering (pipeline.enter url).1 (pipeline.enter url).2
  | resume {load : Nat} {result : Option α} : pipeline.result? load = some result →
      Move (.awaiting load) pipeline (.ended result)
  | settle {load : Nat} {result : Option α} : pipeline.result? load = some result →
      Move (.leading load) (pipeline.settle url result) (.ended result)

/-- The steps of the pipeline: a call comes or moves on, a task ends, and the cache drops an
image. -/
inductive Step : ImagePipeline α → ImagePipeline α → Prop where
  | call {pipeline : ImagePipeline α} (url : String) :
      Step pipeline { pipeline with calls := ⟨url, .entering⟩ :: pipeline.calls }
  | move {pipeline after : ImagePipeline α} {left right : List (ImageCall α)} {call : ImageCall α}
      {phase : ImagePhase α} : pipeline.calls = left ++ call :: right →
      Move pipeline call.url call.phase after phase →
      Step pipeline { after with calls := left ++ ⟨call.url, phase⟩ :: right }
  -- the download and the decoding of a task, whatever comes of them
  | finish {pipeline : ImagePipeline α} {left right : List (ImageLoad α)} {url : String}
      (result : Option α) : pipeline.tasks = left ++ ⟨url, none⟩ :: right →
      Step pipeline { pipeline with tasks := left ++ ⟨url, some result⟩ :: right }
  | evict {pipeline : ImagePipeline α} (url : String) : (pipeline.images.get? url).isSome →
      Step pipeline { pipeline with
        images := pipeline.images.filterKeys fun other => other ≠ url
        evicted := url :: pipeline.evicted }

end ImagePipeline

/-- The runs of a pipeline. -/
def imagePipelines (α : Type) : System (ImagePipeline α) where
  initial pipeline := pipeline = .new
  step := ImagePipeline.Step


/-! ## What is in flight -/

namespace ImagePhase
variable {α : Type}

def leads : ImagePhase α → Bool
  | .leading _ => true
  | _ => false

end ImagePhase

namespace ImagePipeline
variable {α : Type} {pipeline after : ImagePipeline α} {url other : String} {load : Nat}

def leads (url : String) (call : ImageCall α) : Bool := call.url = url && call.phase.leads

/-- A call that creates a task. -/
def started (pipeline : ImagePipeline α) (url : String) : ImagePipeline α :=
  { pipeline with
    loads := pipeline.loads.revise url fun _ => some pipeline.tasks.length
    tasks := pipeline.tasks ++ [⟨url, none⟩]
    requested := url :: pipeline.requested }

/-- A step of a call: it leaves the pipeline alone, creates a task, or settles one. -/
theorem move_cases {phase next : ImagePhase α} (move : Move pipeline url phase after next) :
    (after = pipeline ∧ phase.leads = false ∧
      ((∃ image, next = .ended (some image) ∧ pipeline.images.get? url = some image) ∨
       (∃ load, next = .awaiting load ∧ pipeline.loads.get? url = some load) ∨
       ∃ load result, next = .ended result ∧ phase = .awaiting load ∧
        pipeline.result? load = some result)) ∨
    (phase = .entering ∧ after = pipeline.started url ∧ next = .leading pipeline.tasks.length ∧
      pipeline.images.get? url = none ∧ pipeline.loads.get? url = none) ∨
    ∃ load result, phase = .leading load ∧ after = pipeline.settle url result ∧
      next = .ended result ∧ pipeline.result? load = some result := by
  cases move with
  | enter =>
    unfold enter
    cases cached : pipeline.images.get? url with
    | some image => exact .inl ⟨rfl, rfl, .inl ⟨image, rfl, rfl⟩⟩
    | none =>
      cases loading : pipeline.loads.get? url with
      | some load => exact .inl ⟨rfl, rfl, .inr (.inl ⟨load, rfl, rfl⟩)⟩
      | none => exact .inr (.inl ⟨rfl, rfl, rfl, rfl, rfl⟩)
  | @resume load result finished => exact .inl ⟨rfl, rfl, .inr (.inr ⟨load, result, rfl, rfl, finished⟩)⟩
  | @settle load result finished => exact .inr (.inr ⟨load, result, rfl, rfl, rfl, finished⟩)

theorem get?_started : (pipeline.started url).loads.get? other =
    if other = url then some pipeline.tasks.length else pipeline.loads.get? other := by
  unfold started
  rw [Dictionary.get?_revise]
  split <;> rfl

theorem get?_loads_settle {result : Option α} : (pipeline.settle url result).loads.get? other =
    if other = url then none else pipeline.loads.get? other := by
  have kept : (pipeline.settle url result).loads =
      pipeline.loads.filterKeys fun other => other ≠ url := by
    cases result <;> rfl
  rw [kept, Dictionary.get?_filterKeys]
  by_cases same : other = url <;> simp [same]

theorem get?_images_settle {result : Option α} : (pipeline.settle url result).images.get? other =
    if other = url then result.or (pipeline.images.get? other)
    else pipeline.images.get? other := by
  cases result with
  | none => simp [settle]
  | some image =>
    unfold settle
    rw [Dictionary.get?_revise]

@[simp] theorem tasks_settle {result : Option α} :
    (pipeline.settle url result).tasks = pipeline.tasks := by
  cases result <;> rfl

/-- Every unfinished task is the load of its address, every load has one call that settles it,
and an image, wherever it is, was brought by a task for its address. -/
structure Sound (pipeline : ImagePipeline α) : Prop where
  leaders : ∀ url, pipeline.calls.countP (leads url) = (pipeline.loads.get? url).isSome.toNat
  led : ∀ call ∈ pipeline.calls, ∀ load, call.phase = .leading load →
    pipeline.loads.get? call.url = some load
  listed : ∀ url load, pipeline.loads.get? url = some load →
    ∃ result, pipeline.tasks[load]? = some ⟨url, result⟩
  awaited : ∀ call ∈ pipeline.calls, ∀ load, call.phase = .awaiting load →
    ∃ result, pipeline.tasks[load]? = some ⟨call.url, result⟩
  unfinished : ∀ url load, pipeline.tasks[load]? = some ⟨url, none⟩ →
    pipeline.loads.get? url = some load
  held : ∀ url image, pipeline.images.get? url = some image →
    ⟨url, some (some image)⟩ ∈ pipeline.tasks
  ended : ∀ call ∈ pipeline.calls, ∀ image, call.phase = .ended (some image) →
    ⟨call.url, some (some image)⟩ ∈ pipeline.tasks

theorem mem_of_result? {load : Nat} {result taken : Option (Option α)}
    (place : pipeline.tasks[load]? = some ⟨url, taken⟩) (found : pipeline.result? load = result) :
    taken = result := by
  rw [← found, result?, place]
  rfl

namespace Sound
variable {left right : List (ImageCall α)} {call : ImageCall α}

/-- A call that goes on beside an unchanged pipeline. -/
theorem keep (sound : Sound pipeline) {next : ImagePhase α}
    (place : pipeline.calls = left ++ call :: right) (was : call.phase.leads = false)
    (leads : next.leads = false)
    (awaited : ∀ load, next = .awaiting load → ∃ result, pipeline.tasks[load]? = some ⟨call.url, result⟩)
    (ended : ∀ image, next = .ended (some image) → ⟨call.url, some (some image)⟩ ∈ pipeline.tasks) :
    Sound { pipeline with calls := left ++ ⟨call.url, next⟩ :: right } := by
  obtain ⟨leaders, led, listed, awaits, unfinished, held, ends⟩ := sound
  rw [place] at led awaits ends
  obtain ⟨-, led⟩ := forall_mem_place.mp led
  obtain ⟨-, awaits⟩ := forall_mem_place.mp awaits
  obtain ⟨-, ends⟩ := forall_mem_place.mp ends
  refine ⟨fun url => ?_, forall_mem_place.mpr ⟨?_, led⟩, listed,
    forall_mem_place.mpr ⟨awaited, awaits⟩, unfinished, held, forall_mem_place.mpr ⟨ended, ends⟩⟩
  · have before := leaders url
    rw [place, countP_place] at before
    rw [countP_place]
    unfold ImagePipeline.leads at before ⊢
    rwa [leads, ← was]
  · rintro load rfl
    cases leads

theorem start (sound : Sound pipeline) (place : pipeline.calls = left ++ call :: right)
    (was : call.phase = .entering) (unloaded : pipeline.loads.get? call.url = none) :
    Sound { pipeline.started call.url with
      calls := left ++ ⟨call.url, .leading pipeline.tasks.length⟩ :: right } := by
  obtain ⟨leaders, led, listed, awaits, unfinished, held, ends⟩ := sound
  rw [place] at led awaits ends
  obtain ⟨-, led⟩ := forall_mem_place.mp led
  obtain ⟨-, awaits⟩ := forall_mem_place.mp awaits
  obtain ⟨-, ends⟩ := forall_mem_place.mp ends
  have kept : ∀ {other load}, pipeline.loads.get? other = some load →
      (pipeline.started call.url).loads.get? other = some load := by
    intro other load found
    have different : other ≠ call.url := fun same => by
      rw [same, unloaded] at found
      cases found
    rw [get?_started, if_neg different, found]
  have tasks : ∀ {load : Nat} {task : ImageLoad α}, pipeline.tasks[load]? = some task →
      (pipeline.started call.url).tasks[load]? = some task := by
    intro load task found
    have bound := (List.getElem?_eq_some_iff.mp found).1
    exact (List.getElem?_append_left bound).trans found
  have more : ∀ {task}, task ∈ pipeline.tasks → task ∈ (pipeline.started call.url).tasks :=
    fun {task} among => List.mem_append_left _ among
  refine ⟨fun url => ?_, forall_mem_place.mpr ⟨?_, fun other among load leading =>
      kept (led other among load leading)⟩, fun url load found => ?_,
    forall_mem_place.mpr ⟨fun _ absurd => (by cases absurd), fun other among load awaiting =>
      (awaits other among load awaiting).imp fun _ => tasks⟩, fun url load found => ?_,
    fun url image cached => more (held url image cached),
    forall_mem_place.mpr ⟨fun _ absurd => (by cases absurd), fun other among image ended =>
      more (ends other among image ended)⟩⟩
  · have before := leaders url
    rw [place, countP_place] at before
    rw [countP_place, get?_started]
    unfold ImagePipeline.leads at before ⊢
    rw [was] at before
    by_cases same : url = call.url
    · subst same
      rw [unloaded] at before
      simpa [ImagePhase.leads] using before
    · simpa [same, Ne.symm same] using before
  · rintro _ ⟨⟩
    rw [get?_started, if_pos rfl]
  · rw [get?_started] at found
    split at found
    · rename_i same
      cases found
      exact ⟨none, by simp [started, same]⟩
    · exact (listed url load found).imp fun _ => tasks
  · change (pipeline.tasks ++ [(⟨call.url, none⟩ : ImageLoad α)])[load]? = some ⟨url, none⟩ at found
    by_cases old : load < pipeline.tasks.length
    · rw [List.getElem?_append_left old] at found
      exact kept (unfinished url load found)
    · have last := (List.getElem?_eq_some_iff.mp found).1
      have here : load = pipeline.tasks.length := by
        rw [List.length_append, List.length_singleton] at last
        omega
      subst here
      rw [List.getElem?_concat_length] at found
      cases found
      rw [get?_started, if_pos rfl]

theorem settle (sound : Sound pipeline) {load : Nat} {result : Option α}
    (place : pipeline.calls = left ++ call :: right) (was : call.phase = .leading load)
    (finished : pipeline.result? load = some result) :
    Sound { pipeline.settle call.url result with
      calls := left ++ ⟨call.url, .ended result⟩ :: right } := by
  obtain ⟨leaders, led, listed, awaits, unfinished, held, ends⟩ := sound
  have leading : call.phase.leads = true := by rw [was]; rfl
  have own := led call (by rw [place]; simp) load was
  obtain ⟨taken, brought⟩ := listed call.url load own
  obtain rfl := mem_of_result? brought finished
  have among := List.mem_of_getElem? brought
  have counted := leaders call.url
  rw [place, countP_place, own] at counted
  have others : ∀ other ∈ left ++ right, other.url = call.url → other.phase.leads = false := by
    intro other among same
    have one : (ImagePipeline.leads call.url call).toNat = 1 := by
      simp [ImagePipeline.leads, leading]
    have bound : (some load).isSome.toNat = 1 := rfl
    have none : (left ++ right).countP (ImagePipeline.leads call.url) = 0 := by
      rw [List.countP_append]
      omega
    simpa [ImagePipeline.leads, same] using List.countP_eq_zero.mp none other among
  rw [place] at led awaits ends
  obtain ⟨-, led⟩ := forall_mem_place.mp led
  obtain ⟨-, awaits⟩ := forall_mem_place.mp awaits
  obtain ⟨-, ends⟩ := forall_mem_place.mp ends
  refine ⟨fun url => ?_, forall_mem_place.mpr ⟨fun _ absurd => (by cases absurd), ?_⟩,
    fun url other found => ?_, forall_mem_place.mpr ⟨fun _ absurd => (by cases absurd), ?_⟩,
    fun url other found => ?_, fun url image cached => ?_, forall_mem_place.mpr ⟨?_, ?_⟩⟩
  · have before := leaders url
    rw [place, countP_place] at before
    rw [countP_place, get?_loads_settle]
    unfold ImagePipeline.leads at before ⊢
    rw [was] at before
    by_cases same : url = call.url
    · subst same
      rw [own] at before
      simpa [ImagePhase.leads] using before
    · simpa [same, Ne.symm same] using before
  · intro other among task leads
    have different : other.url ≠ call.url := fun same => by
      have idle := others other among same
      rw [leads] at idle
      cases idle
    rw [get?_loads_settle, if_neg different]
    exact led other among task leads
  · rw [get?_loads_settle] at found
    split at found
    · cases found
    · rw [tasks_settle]
      exact listed url other found
  · rw [tasks_settle]
    exact awaits
  · rw [tasks_settle] at found
    have load' := unfinished url other found
    have different : url ≠ call.url := fun same => by
      rw [same, own] at load'
      cases load'
      rw [brought] at found
      cases found
    rw [get?_loads_settle, if_neg different]
    exact load'
  · rw [tasks_settle]
    rw [get?_images_settle] at cached
    split at cached
    · rename_i same
      cases result with
      | none => exact held url image cached
      | some fresh =>
        cases cached
        rw [same]
        exact among
    · exact held url image cached
  · rintro image ⟨⟩
    rw [tasks_settle]
    exact among
  · rw [tasks_settle]
    exact ends

theorem finish (sound : Sound pipeline) {before behind : List (ImageLoad α)} {result : Option α}
    (place : pipeline.tasks = before ++ ⟨url, none⟩ :: behind) :
    Sound { pipeline with tasks := before ++ ⟨url, some result⟩ :: behind } := by
  obtain ⟨leaders, led, listed, awaits, unfinished, held, ends⟩ := sound
  have elsewhere : ∀ load, load ≠ before.length →
      (before ++ (⟨url, some result⟩ : ImageLoad α) :: behind)[load]? = pipeline.tasks[load]? := by
    intro load different
    rw [place, List.getElem?_append, List.getElem?_append]
    split
    · rfl
    · obtain ⟨rest, more⟩ : ∃ rest, load - before.length = rest + 1 :=
        Nat.exists_eq_add_one.mpr (by omega)
      rw [more, List.getElem?_cons_succ, List.getElem?_cons_succ]
  have here : pipeline.tasks[before.length]? = some ⟨url, none⟩ := by
    rw [place, List.getElem?_append_right (Nat.le_refl _), Nat.sub_self]
    rfl
  have now : (before ++ (⟨url, some result⟩ : ImageLoad α) :: behind)[before.length]? =
      some ⟨url, some result⟩ := by
    rw [List.getElem?_append_right (Nat.le_refl _), Nat.sub_self]
    rfl
  have still : ∀ {other : String} {load : Nat},
      (∃ taken, pipeline.tasks[load]? = some ⟨other, taken⟩) →
      ∃ taken, (before ++ (⟨url, some result⟩ : ImageLoad α) :: behind)[load]? =
        some ⟨other, taken⟩ := by
    rintro other load ⟨taken, found⟩
    by_cases same : load = before.length
    · subst same
      rw [here] at found
      cases found
      exact ⟨some result, now⟩
    · exact ⟨taken, (elsewhere load same).trans found⟩
  have kept : ∀ {other : String} {image : α}, (⟨other, some (some image)⟩ : ImageLoad α) ∈ pipeline.tasks →
      ⟨other, some (some image)⟩ ∈ before ++ (⟨url, some result⟩ : ImageLoad α) :: behind := by
    intro other image among
    rw [place] at among
    have among : ⟨other, some (some image)⟩ ∈ before ∨ ⟨other, some (some image)⟩ ∈ behind := by
      simpa using among
    rw [List.mem_append, List.mem_cons]
    exact among.imp_right .inr
  refine ⟨leaders, led, fun url load found => still (listed url load found),
    fun call among load awaiting => still (awaits call among load awaiting),
    fun other load found => ?_, fun url image cached => kept (held url image cached),
    fun call among image ended => kept (ends call among image ended)⟩
  by_cases same : load = before.length
  · subst same
    rw [now] at found
    cases found
  · exact unfinished other load ((elsewhere load same).symm.trans found)

end Sound

theorem sound_step (sound : Sound pipeline) (step : Step pipeline after) : Sound after := by
  cases step with
  | call url =>
    refine ⟨fun other => ?_, ?_, sound.listed, ?_, sound.unfinished, sound.held, ?_⟩
    · rw [List.countP_cons_of_neg (by simp [leads, ImagePhase.leads])]
      exact sound.leaders other
    · exact List.forall_mem_cons.mpr ⟨fun _ absurd => (by cases absurd), sound.led⟩
    · exact List.forall_mem_cons.mpr ⟨fun _ absurd => (by cases absurd), sound.awaited⟩
    · exact List.forall_mem_cons.mpr ⟨fun _ absurd => (by cases absurd), sound.ended⟩
  | @move middle left right call next place move =>
    rcases move_cases move with ⟨rfl, was, went⟩ | ⟨was, rfl, rfl, -, unloaded⟩ |
        ⟨load, result, was, rfl, rfl, finished⟩
    · rcases went with ⟨image, rfl, cached⟩ | ⟨load, rfl, loading⟩ |
          ⟨load, result, rfl, awaiting, finished⟩
      · refine sound.keep place was rfl (by simp) ?_
        rintro _ ⟨⟩
        exact sound.held _ _ cached
      · refine sound.keep place was rfl ?_ (by simp)
        rintro _ ⟨⟩
        exact sound.listed _ _ loading
      · refine sound.keep place was rfl (by simp) ?_
        rintro image ⟨⟩
        obtain ⟨taken, brought⟩ := sound.awaited call (by rw [place]; simp) load awaiting
        obtain rfl := mem_of_result? brought finished
        exact List.mem_of_getElem? brought
    · exact sound.start place was unloaded
    · exact sound.settle place was finished
  | finish result place => exact sound.finish place
  | evict url present =>
    refine ⟨sound.leaders, sound.led, sound.listed, sound.awaited, sound.unfinished, ?_, sound.ended⟩
    intro other image cached
    rw [Dictionary.get?_filterKeys] at cached
    split at cached
    · exact sound.held other image cached
    · cases cached

theorem sound_of_reachable (reached : (imagePipelines α).Reachable pipeline) : Sound pipeline := by
  refine reached.invariant _ ?_ fun _ _ _ held step => sound_step held step
  rintro _ rfl
  exact ⟨fun _ => rfl, fun _ absurd => (by cases absurd), fun _ _ absurd => (by cases absurd),
    fun _ absurd => (by cases absurd), fun _ _ absurd => (by cases absurd),
    fun _ _ absurd => (by cases absurd), fun _ absurd => (by cases absurd)⟩

/-! ## A single flight -/

/-- A pipeline as fetches under addresses; an image that was dropped may be fetched again.
-/
def flights (pipeline : ImagePipeline α) : Flights String α where
  kept := pipeline.images.get?
  running url := (pipeline.loads.get? url).isSome
  begun url := pipeline.requested.count url
  failed url := pipeline.failed.count url
  dropped url := pipeline.evicted.count url

theorem running_settle {result : Option α} :
    (fun other => ((pipeline.settle url result).loads.get? other).isSome) =
      Function.update (fun other => (pipeline.loads.get? other).isSome) url false := by
  funext other
  rw [get?_loads_settle, Function.update_apply]
  split <;> rfl

/-- Every step is one of a single flight, or none. -/
theorem flights_step (sound : Sound pipeline) (step : Step pipeline after) :
    Relation.ReflTransGen Flights.Step (flights pipeline) (flights after) := by
  cases step with
  | call | finish => exact .refl
  | evict url present =>
    have dropped := @Flights.Step.drop _ _ _ (flights pipeline) url present
    refine .single (Eq.mp (congrArg _ ?_) dropped)
    have images : (pipeline.images.filterKeys fun other => other ≠ url).get? =
        Function.update pipeline.images.get? url none := by
      funext other
      rw [Dictionary.get?_filterKeys, Function.update_apply]
      by_cases same : other = url <;> simp [same]
    simp only [flights, images, Flights.more_count]
  | @move middle left right call next place move =>
    rcases move_cases move with ⟨rfl, -, -⟩ | ⟨-, rfl, -, uncached, unloaded⟩ |
        ⟨load, result, was, rfl, -, -⟩
    · exact .refl
    · have begun := @Flights.Step.start _ _ _ (flights pipeline) call.url uncached
        (by simp [flights, unloaded])
      refine .single (Eq.mp (congrArg _ ?_) begun)
      have running : (fun other => ((pipeline.started call.url).loads.get? other).isSome) =
          Function.update (fun other => (pipeline.loads.get? other).isSome) call.url true := by
        funext other
        rw [get?_started, Function.update_apply]
        split <;> rfl
      simp only [flights, running, Flights.more_count]
      rfl
    · have own := sound.led call (by rw [place]; simp) load was
      have running : (flights pipeline).running call.url = true := by simp [flights, own]
      cases result with
      | none =>
        have failed := @Flights.Step.fail _ _ _ (flights pipeline) call.url running
        refine .single (Eq.mp (congrArg _ ?_) failed)
        simp only [flights, running_settle, Flights.more_count]
        rfl
      | some image =>
        have landed := @Flights.Step.land _ _ _ (flights pipeline) call.url image running
        refine .single (Eq.mp (congrArg _ ?_) landed)
        have images : (pipeline.settle call.url (some image)).images.get? =
            Function.update pipeline.images.get? call.url (some image) := by
          funext other
          rw [get?_images_settle, Function.update_apply]
          rfl
        simp only [flights, running_settle, images]
        rfl

theorem flights_reachable (reached : (imagePipelines α).Reachable pipeline) :
    (Flights.system String α).Reachable (flights pipeline) := by
  refine reached.abstracts flights ?_ fun _ _ reached step =>
    flights_step (sound_of_reachable reached) step
  rintro _ rfl
  exact .start rfl

/-- An address is loaded at most once more than loads of it failed and its image was evicted,
and never twice at a time. A call waits for a task of its own address, and gets an image that
was loaded from there. -/
theorem loaded_once (reached : (imagePipelines α).Reachable pipeline) (url : String) :
    pipeline.requested.count url ≤
      pipeline.failed.count url + pipeline.evicted.count url + 1 ∧
    (∀ first second : Nat, pipeline.tasks[first]? = some ⟨url, none⟩ →
      pipeline.tasks[second]? = some ⟨url, none⟩ → first = second) ∧
    ∀ call ∈ pipeline.calls, call.url = url →
      (∀ load : Nat, call.phase = .awaiting load ∨ call.phase = .leading load →
        ∃ result, pipeline.tasks[load]? = some ⟨url, result⟩) ∧
      ∀ image, call.phase = .ended (some image) → ⟨url, some (some image)⟩ ∈ pipeline.tasks := by
  have sound := sound_of_reachable reached
  refine ⟨Flights.begun_le (flights_reachable reached) url, fun first second one two => ?_, ?_⟩
  · have listed := sound.unfinished url first one
    rw [sound.unfinished url second two] at listed
    exact (Option.some.inj listed).symm
  · rintro call among rfl
    refine ⟨?_, sound.ended call among⟩
    rintro load (awaiting | leading)
    · exact sound.awaited call among load awaiting
    · exact sound.listed call.url load (sound.led call among load leading)

/-- Two calls for one address, and one load, which the second call awaits. -/
theorem loaded_once_shared : ∃ pipeline : ImagePipeline Nat,
    (imagePipelines Nat).Reachable pipeline ∧
    pipeline.calls = [⟨"a", .leading 0⟩, ⟨"a", .awaiting 0⟩] ∧ pipeline.requested.count "a" ≤ 1 := by
  have called := ((System.Reachable.start rfl : (imagePipelines Nat).Reachable .new).next
    (.call "a")).next (.call "a")
  have entered := (called.next (@Step.move _ _ _ [] _ _ _ rfl .enter)).next
    (@Step.move _ _ _ [⟨"a", .leading 0⟩] _ _ _ rfl .enter)
  exact ⟨_, entered, rfl, (loaded_once entered "a").1⟩

end ImagePipeline
end FluxBar.Client
