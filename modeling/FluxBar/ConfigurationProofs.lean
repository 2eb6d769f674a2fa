import FluxBar.Configuration

/-! One engine per account, and the newest configuration. The services register
every live engine that was installed, so no second one comes beside it; and the
session is that of the latest call among those of the highest generation. -/
namespace FluxBar
open Transition WeakRegistry

/-! ## The newest call -/

/-- A call no later one equals and no earlier one exceeds, in the order the calls have
reached the lock of the session. -/
def Newest (reached : List Configuration) (call : Configuration) : Prop :=
  ∃ later earlier, reached = later ++ call :: earlier ∧
    (∀ other ∈ later, other.generation < call.generation) ∧
    ∀ other ∈ earlier, other.generation ≤ call.generation

namespace Newest
variable {reached : List Configuration} {call next : Configuration}

theorem le (newest : Newest reached call) : ∀ other ∈ reached, other.generation ≤ call.generation := by
  obtain ⟨later, earlier, rfl, above, below⟩ := newest
  intro other listed
  rcases List.mem_append.mp listed with early | rest
  · exact Int.le_of_lt (above other early)
  · rcases List.mem_cons.mp rest with rfl | late
    · exact Int.le_refl _
    · exact below other late

theorem replaced (below : ∀ other ∈ reached, other.generation ≤ next.generation) :
    Newest (next :: reached) next :=
  ⟨[], reached, rfl, fun _ listed => (by cases listed), below⟩

theorem stale (newest : Newest reached call) (older : next.generation < call.generation) :
    Newest (next :: reached) call := by
  obtain ⟨later, earlier, rfl, above, below⟩ := newest
  refine ⟨next :: later, earlier, rfl, ?_, below⟩
  intro other listed
  rcases List.mem_cons.mp listed with rfl | rest
  · exact older
  · exact above other rest

end Newest

namespace Process
variable {process after : Process} {engine : Engine} {call : Configuration}

/-! ## Who holds an engine -/

/-- An engine is alive through the session, a call that has built it, or a holder. -/
theorem alive_iff : process.alive engine = true ↔
    (∃ session, process.runtime.session = some session ∧ session.engine = engine) ∨
    (∃ call ∈ process.configuring, call.candidate = engine) ∨
    ∃ hold ∈ process.holds, hold.engine = engine := by
  have counted : ∀ total other rest : Nat, 0 < total + other + rest ↔
      0 < total ∨ 0 < other ∨ 0 < rest := by omega
  unfold alive strongCount
  rw [decide_eq_true_eq, counted, List.countP_pos_iff, List.countP_pos_iff]
  simp only [decide_eq_true_eq, ← Option.map_eq_some_iff]
  refine or_congr ?_ Iff.rfl
  split <;> simp_all

/-- The live engines installed are registered under their accounts, and nobody holds
an engine that was not installed, the calls on their way aside. -/
structure Sound (process : Process) : Prop where
  registered : Registered process.alive process.installed process.runtime.services
  services : ∀ entry ∈ process.runtime.services, entry ∈ process.installed
  bound : ∀ entry ∈ process.installed, entry.2.accountId = entry.1
  built : ∀ entry ∈ process.installed, entry.2.id < process.built
  configuring : ∀ call ∈ process.configuring, call.candidate.id < process.built
  session : ∀ session, process.runtime.session = some session →
    (session.accountId, session.engine) ∈ process.installed
  holds : ∀ hold ∈ process.holds, (hold.engine.accountId, hold.engine) ∈ process.installed

/-- The engine a call installs is alive: it is the one registered, or the candidate
the call holds. -/
theorem chosen_cases (runtime : AppRuntime) (alive : Engine → Bool) (call : Configuration) :
    (alive (runtime.chosen alive call) = true ∧
      (call.accountId, runtime.chosen alive call) ∈ runtime.services) ∨
    runtime.chosen alive call = call.candidate := by
  unfold AppRuntime.chosen
  cases found : upgrade alive call.accountId runtime.services with
  | none => exact .inr rfl
  | some engine => exact .inl (alive_of_upgrade found)

/-- A step brings no engine to life that was built before; only a call that builds one does.
-/
theorem alive_step (step : Step process after) (known : engine.id < process.built)
    (live : after.alive engine = true) : process.alive engine = true := by
  rw [alive_iff] at live ⊢
  cases step with
  | build accountId newestFirst generation =>
    rcases live with session | ⟨call, listed, rfl⟩ | hold
    · exact .inl session
    · rcases List.mem_cons.mp listed with rfl | listed
      · exact absurd known (Nat.lt_irrefl _)
      · exact .inr (.inl ⟨call, listed, rfl⟩)
    · exact .inr (.inr hold)
  | configure call listed =>
    unfold configure at live
    dsimp only at live
    split at live
    · rcases live with ⟨session, current, rfl⟩ | ⟨other, held, rfl⟩ | hold
      · cases current
        rcases chosen_cases process.runtime process.alive call with ⟨live, _⟩ | candidate
        · exact alive_iff.mp live
        · exact .inr (.inl ⟨call, listed, candidate.symm⟩)
      · exact .inr (.inl ⟨other, List.mem_of_mem_erase held, rfl⟩)
      · exact .inr (.inr hold)
    · rcases live with session | ⟨other, held, rfl⟩ | hold
      · exact .inl session
      · exact .inr (.inl ⟨other, List.mem_of_mem_erase held, rfl⟩)
      · exact .inr (.inr hold)
  | acquire session current =>
    rcases live with session | call | ⟨hold, held, rfl⟩
    · exact .inl session
    · exact .inr (.inl call)
    · rcases List.mem_cons.mp held with rfl | held
      · exact .inl ⟨session, current, rfl⟩
      · exact .inr (.inr ⟨hold, held, rfl⟩)
  | share shared there =>
    rcases live with session | call | ⟨hold, held, rfl⟩
    · exact .inl session
    · exact .inr (.inl call)
    · rcases List.mem_cons.mp held with rfl | held
      · exact .inr (.inr ⟨shared, there, rfl⟩)
      · exact .inr (.inr ⟨hold, held, rfl⟩)
  | enter entered there _ | leave entered there =>
    rcases live with session | call | ⟨hold, held, rfl⟩
    · exact .inl session
    · exact .inr (.inl call)
    · rcases List.mem_cons.mp held with rfl | held
      · exact .inr (.inr ⟨_, there, rfl⟩)
      · exact .inr (.inr ⟨hold, List.mem_of_mem_erase held, rfl⟩)
  | release released there =>
    rcases live with session | call | ⟨hold, held, rfl⟩
    · exact .inl session
    · exact .inr (.inl call)
    · exact .inr (.inr ⟨hold, List.mem_of_mem_erase held, rfl⟩)

/-! ## What each step keeps -/

/-- A call that replaces the session: the engine it installs is the account's, where one is
alive, and so it stays the only one. -/
theorem sound_install (sound : process.Sound) (listed : call ∈ process.configuring)
    (replaces : process.runtime.replaces call = true) : (process.configure call).Sound := by
  have step : Step process (process.configure call) := .configure call listed
  have known : process.runtime.chosen process.alive call = call.candidate ∨
      (call.accountId, process.runtime.chosen process.alive call) ∈ process.installed :=
    (chosen_cases process.runtime process.alive call).symm.imp_right fun registered =>
      sound.services _ registered.2
  have fresh : (process.runtime.chosen process.alive call).id < process.built := by
    rcases known with candidate | held
    · exact candidate ▸ sound.configuring call listed
    · exact sound.built _ held
  have account : (process.runtime.chosen process.alive call).accountId = call.accountId := by
    rcases known with candidate | held
    · rw [candidate]
      rfl
    · exact sound.bound _ held
  have lives := fun engine => @alive_step process _ engine step
  unfold configure at lives ⊢
  rw [if_pos replaces] at lives ⊢
  refine ⟨?_, ?_, ?_, ?_, ?_, ?_, ?_⟩
  · refine (sound.registered.enroll rfl).die fun entry held live => lives entry.2 ?_ live
    rcases List.mem_cons.mp held with rfl | held
    · exact fresh
    · exact sound.built entry held
  · intro entry held
    rcases mem_of_register held with rfl | held
    · exact List.mem_cons_self
    · exact List.mem_cons_of_mem _ (sound.services entry (List.mem_of_mem_filter held))
  · intro entry held
    rcases List.mem_cons.mp held with rfl | held
    · exact account
    · exact sound.bound entry held
  · intro entry held
    rcases List.mem_cons.mp held with rfl | held
    · exact fresh
    · exact sound.built entry held
  · exact fun other held => sound.configuring other (List.mem_of_mem_erase held)
  · intro session current
    cases current
    exact List.mem_cons_self
  · exact fun hold held => List.mem_cons_of_mem _ (sound.holds hold held)

/-- A step that leaves the registry and the history alone. -/
theorem Sound.kept (sound : process.Sound) (step : Step process after)
    (runtime : after.runtime = process.runtime) (installed : after.installed = process.installed)
    (later : process.built ≤ after.built)
    (configuring : ∀ call ∈ after.configuring, call.candidate.id < after.built)
    (holds : ∀ hold ∈ after.holds, (hold.engine.accountId, hold.engine) ∈ process.installed) :
    after.Sound := by
  refine ⟨?_, ?_, ?_, ?_, configuring, ?_, ?_⟩
  · rw [runtime, installed]
    exact sound.registered.die fun entry held live => alive_step step (sound.built entry held) live
  · rw [runtime, installed]
    exact sound.services
  · rw [installed]
    exact sound.bound
  · rw [installed]
    exact fun entry held => Nat.lt_of_lt_of_le (sound.built entry held) later
  · rw [runtime, installed]
    exact sound.session
  · rw [installed]
    exact holds

theorem sound_step (sound : process.Sound) (step : Step process after) : after.Sound := by
  have taken := step
  cases step with
  | build accountId newestFirst generation =>
    refine sound.kept taken rfl rfl (Nat.le_succ _) ?_ sound.holds
    intro call listed
    rcases List.mem_cons.mp listed with rfl | listed
    · exact Nat.lt_succ_self _
    · exact Nat.lt_succ_of_lt (sound.configuring call listed)
  | configure call listed =>
    by_cases replaces : process.runtime.replaces call = true
    · exact sound_install sound listed replaces
    · have stale : process.configure call = { process with
          configuring := process.configuring.erase call, reached := call :: process.reached } := by
        unfold configure
        rw [if_neg replaces]
      rw [stale] at taken ⊢
      refine sound.kept taken rfl rfl (Nat.le_refl _) ?_ sound.holds
      exact fun other held => sound.configuring other (List.mem_of_mem_erase held)
  | acquire session current =>
    refine sound.kept taken rfl rfl (Nat.le_refl _) sound.configuring ?_
    intro hold held
    rcases List.mem_cons.mp held with rfl | held
    · have installed := sound.session session current
      have bound : session.engine.accountId = session.accountId := sound.bound _ installed
      exact bound.symm ▸ installed
    · exact sound.holds hold held
  | share shared there =>
    refine sound.kept taken rfl rfl (Nat.le_refl _) sound.configuring ?_
    intro hold held
    rcases List.mem_cons.mp held with rfl | held
    · exact sound.holds shared there
    · exact sound.holds hold held
  | enter entered there _ | leave entered there =>
    refine sound.kept taken rfl rfl (Nat.le_refl _) sound.configuring ?_
    intro hold held
    rcases List.mem_cons.mp held with rfl | held
    · have installed := sound.holds _ there
      exact installed
    · exact sound.holds hold (List.mem_of_mem_erase held)
  | release released there =>
    refine sound.kept taken rfl rfl (Nat.le_refl _) sound.configuring ?_
    exact fun hold held => sound.holds hold (List.mem_of_mem_erase held)

theorem sound_of_reachable (reached : processes.Reachable process) : process.Sound := by
  refine reached.invariant Process.Sound ?_ fun _ _ _ sound step => sound_step sound step
  rintro _ rfl
  refine ⟨.empty, ?_, ?_, ?_, ?_, ?_, ?_⟩ <;> rintro _ held <;> cases held

/-! ## Gates -/

/-- No gate is taken twice, so that at most one refresh or flush runs on an engine. -/
def OneInEach (process : Process) : Prop := ∀ engine, process.holds.count ⟨engine, true⟩ ≤ 1

theorem oneInEach_step (one : process.OneInEach) (step : Step process after) : after.OneInEach := by
  intro engine
  have before := one engine
  cases step with
  | build accountId newestFirst generation => exact before
  | configure call listed =>
    unfold configure
    split <;> exact before
  | acquire session current =>
    rw [List.count_cons_of_ne (by simp)]
    exact before
  | share shared there =>
    rw [List.count_cons_of_ne (by simp)]
    exact before
  | enter entered there free =>
    rw [List.count_cons, List.count_erase_of_ne (by simp)]
    by_cases same : entered = engine
    · subst same
      rw [List.count_eq_zero_of_not_mem free]
      simp
    · simpa [same] using before
  | leave entered there =>
    rw [List.count_cons_of_ne (by simp)]
    exact Nat.le_trans (List.erase_sublist.count_le _) before
  | release released there => exact Nat.le_trans (List.erase_sublist.count_le _) before

theorem oneInEach_of_reachable (reached : processes.Reachable process) : process.OneInEach := by
  refine reached.invariant Process.OneInEach ?_ fun _ _ _ one step => oneInEach_step one step
  rintro _ rfl engine
  exact Nat.zero_le 1

/-! ## The session -/

/-- The session is that of the newest call that has reached the lock: its account,
its generation, an engine of its account, and its order of articles. -/
def Current (process : Process) : Prop :=
  match process.runtime.session with
  | none => process.reached = []
  | some session => ∃ call, Newest process.reached call ∧ session.accountId = call.accountId ∧
      session.generation = call.generation ∧ session.engine.accountId = call.accountId ∧
      process.newestFirst session.engine.id = call.newestFirst

/-- A call replaces the session or is stale, and its generation says which. -/
theorem configure_cases (process : Process) (call : Configuration) :
    ((∀ session, process.runtime.session = some session → session.generation ≤ call.generation) ∧
      process.configure call = { process with
        runtime := process.runtime.install process.alive call
        newestFirst := Function.update process.newestFirst
          (process.runtime.chosen process.alive call).id call.newestFirst
        configuring := process.configuring.erase call
        reached := call :: process.reached
        installed := (call.accountId, process.runtime.chosen process.alive call) ::
          process.installed }) ∨
    ∃ session, process.runtime.session = some session ∧ call.generation < session.generation ∧
      process.configure call = { process with
        configuring := process.configuring.erase call, reached := call :: process.reached } := by
  unfold configure AppRuntime.replaces
  cases current : process.runtime.session with
  | none => exact .inl ⟨fun _ found => (by cases found), if_pos rfl⟩
  | some session =>
    by_cases newer : session.generation ≤ call.generation
    · refine .inl ⟨fun other found => ?_, if_pos (decide_eq_true newer)⟩
      cases found
      exact newer
    · refine .inr ⟨session, rfl, Int.not_le.mp newer, if_neg ?_⟩
      simpa using newer

theorem current_step (sound : process.Sound) (current : process.Current)
    (step : Step process after) : after.Current := by
  have soundAfter := sound_step sound step
  cases step with
  | build accountId newestFirst generation =>
    unfold Current at current ⊢
    unfold build
    dsimp only
    cases found : process.runtime.session with
    | none => simpa [found] using current
    | some session =>
      rw [found] at current
      obtain ⟨call, newest, account, same, bound, order⟩ := current
      have known := sound.built _ (sound.session session found)
      refine ⟨call, newest, account, same, bound, ?_⟩
      rw [Function.update_of_ne (Nat.ne_of_lt known)]
      exact order
  | configure call listed =>
    rcases configure_cases process call with ⟨newer, configured⟩ | ⟨session, found, older, configured⟩
    · have below : ∀ other ∈ process.reached, other.generation ≤ call.generation := by
        unfold Current at current
        cases found : process.runtime.session with
        | none =>
          rw [found] at current
          rw [current]
          exact fun _ listed => (by cases listed)
        | some session =>
          rw [found] at current
          obtain ⟨last, newest, _, same, _⟩ := current
          have bound := newer session found
          intro other listed
          exact Int.le_trans (newest.le other listed) (same ▸ bound)
      rw [configured] at soundAfter ⊢
      refine ⟨call, .replaced below, rfl, rfl, ?_, Function.update_self ..⟩
      exact soundAfter.bound _ List.mem_cons_self
    · rw [configured]
      unfold Current at current ⊢
      dsimp only
      rw [found] at current ⊢
      obtain ⟨last, newest, account, same, bound, order⟩ := current
      exact ⟨last, newest.stale (same ▸ older), account, same, bound, order⟩
  | acquire _ _ | share _ _ | enter _ _ _ | leave _ _ | release _ _ => exact current

theorem current_of_reachable (reached : processes.Reachable process) : process.Current := by
  refine reached.invariant Process.Current ?_ fun _ _ before current step =>
    current_step (sound_of_reachable before) current step
  rintro _ rfl
  rfl

/-- A session is never given up, and its generation never decreases, whatever calls overtake
each other. -/
theorem generation_step (step : Step process after) (session : AppRuntime.Session)
    (current : process.runtime.session = some session) :
    ∃ next, after.runtime.session = some next ∧ session.generation ≤ next.generation := by
  cases step with
  | configure call listed =>
    rcases configure_cases process call with ⟨newer, configured⟩ | ⟨other, found, _, configured⟩
    · rw [configured]
      exact ⟨_, rfl, newer session current⟩
    · rw [configured]
      exact ⟨session, current, Int.le_refl _⟩
  | build _ _ _ | acquire _ _ | share _ _ | enter _ _ _ | leave _ _ | release _ _ =>
    exact ⟨session, current, Int.le_refl _⟩

end Process

/-- Whatever calls, operations and drops come in between: the session is that of the
newest call, its generation does not decrease, an account has at most one live
engine of those ever installed for it, and so at most one refresh or flush of an
account runs at a time. -/
theorem one_engine_newest_configuration {process : Process} (reached : processes.Reachable process) :
    process.Current ∧
    (∀ after, Process.Step process after → ∀ session, process.runtime.session = some session →
      ∃ next, after.runtime.session = some next ∧ session.generation ≤ next.generation) ∧
    (∀ accountId left right, (accountId, left) ∈ process.installed →
      (accountId, right) ∈ process.installed → process.alive left → process.alive right →
      left = right) ∧
    ((process.holds.filter Hold.gated).map fun hold => hold.engine.accountId).Nodup := by
  have sound := Process.sound_of_reachable reached
  have one := Process.oneInEach_of_reachable reached
  refine ⟨Process.current_of_reachable reached, fun _ => Process.generation_step, ?_, ?_⟩
  · exact fun _ _ _ held other live otherLive => sound.registered.unique held other live otherLive
  · have gated : ∀ hold ∈ process.holds.filter Hold.gated, hold = ⟨hold.engine, true⟩ := by
      intro hold listed
      have inside := (List.mem_filter.mp listed).2
      rw [← inside]
    refine List.Nodup.map_on ?_ (List.nodup_iff_count_le_one.mpr ?_)
    · intro left leftListed right rightListed same
      have live : ∀ hold ∈ process.holds.filter Hold.gated, process.alive hold.engine = true :=
        fun hold listed => Process.alive_iff.mpr (.inr (.inr ⟨hold, List.mem_of_mem_filter listed, rfl⟩))
      have leftHeld := sound.holds left (List.mem_of_mem_filter leftListed)
      have rightHeld := sound.holds right (List.mem_of_mem_filter rightListed)
      have engine := sound.registered.unique leftHeld (same ▸ rightHeld) (live left leftListed)
        (live right rightListed)
      rw [gated left leftListed, gated right rightListed, engine]
    · intro hold
      by_cases listed : hold ∈ process.holds.filter Hold.gated
      · rw [gated hold listed]
        exact Nat.le_trans (List.filter_sublist.count_le _) (one hold.engine)
      · rw [List.count_eq_zero_of_not_mem listed]
        exact Nat.zero_le 1

/-! ## There and back -/

/-- The first account's engine. -/
def firstEngine : Engine := ⟨0, "a"⟩

/-- The first account is configured and a refresh of it runs; the second account
replaces it, and then the first again. -/
def roundTrip : Process where
  runtime := ⟨some ⟨"a", 3, firstEngine⟩, [("a", firstEngine), ("b", ⟨1, "b"⟩)]⟩
  built := 3
  newestFirst := Function.update (Function.update (Function.update (Function.update (Function.update
    (Function.update (fun _ => false) 0 false) 0 false) 1 false) 1 false) 2 true) 0 true
  configuring := []
  holds := [⟨firstEngine, true⟩]
  reached := [⟨⟨2, "a"⟩, true, 3⟩, ⟨⟨1, "b"⟩, false, 2⟩, ⟨firstEngine, false, 1⟩]
  installed := [("a", firstEngine), ("b", ⟨1, "b"⟩), ("a", firstEngine)]

theorem roundTrip_reachable : processes.Reachable roundTrip := by
  have started : processes.Reachable .start := .start rfl
  have built := started.next (.build "a" false 1)
  have configured := built.next (.configure ⟨firstEngine, false, 1⟩ (by decide))
  have acquired := configured.next (.acquire ⟨"a", 1, firstEngine⟩ (by decide))
  have refreshing := acquired.next (.enter firstEngine (by decide) (by decide))
  have otherBuilt := refreshing.next (.build "b" false 2)
  have other := otherBuilt.next (.configure ⟨⟨1, "b"⟩, false, 2⟩ (by decide))
  have againBuilt := other.next (.build "a" true 3)
  have again := againBuilt.next (.configure ⟨⟨2, "a"⟩, true, 3⟩ (by decide))
  exact again

/-- The account is left and configured again while a refresh runs: the refresh holds the
engine of the session. -/
theorem round_trip_keeps_engine : processes.Reachable roundTrip ∧ roundTrip.Current ∧
    ∀ engine, ("a", engine) ∈ roundTrip.installed → roundTrip.alive engine → engine = firstEngine := by
  obtain ⟨current, _, unique, _⟩ := one_engine_newest_configuration roundTrip_reachable
  refine ⟨roundTrip_reachable, current, fun engine held live => ?_⟩
  exact unique "a" engine firstEngine held (by decide) live (by decide)

end FluxBar
