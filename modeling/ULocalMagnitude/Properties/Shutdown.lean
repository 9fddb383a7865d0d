import ULocalMagnitude.Process

/-!
# Shutting down

Whether a process that serves can be stopped.  `handleMainThread` installs the handlers
and asks the server to shut down, but it runs after `start`, which waits until the server
has been shut down.
-/

namespace ULocalMagnitude
namespace Properties

open Grpc (ServerBuilder ServerOptions)
open Threads (Language Thread Reaches Step)

/-- The handlers are installed, and once one of them has recorded a signal the process can
get to where the server has been asked to shut down. -/
structure StopsCleanly (starts : ServerBuilder → Bool) (options : ServerOptions)
    (s : Thread Statement Process) : Prop where
  handlers : ∀ signal, s.memory.disposition signal = .signalHandler
  stops : ∀ signal, ∃ t,
    Reaches (Process.language starts options) (Process.interrupted signal s) t ∧
      Process.IsShutDown t

section Life

variable {starts : ServerBuilder → Bool} {options : ServerOptions}
  {s t : Thread Statement Process}

/-- What `Server::start` and `Process::start` have left to do once the wait is over. -/
def afterWait : List Statement := .storeServerStarted false :: Process.handleMainThread

/-- The server has not been built. -/
structure Starting (s : Thread Statement Process) : Prop where
  block : s.block = Process.start ∨ s.block = Process.start.tail
  rest : s.rest = Process.destroy
  server : s.memory.mServer.mServer = none
  disposition : ∀ signal, s.memory.disposition signal = .default

/-- The server runs, and the main thread waits or is about to. -/
structure InService (s : Thread Statement Process) : Prop where
  block : s.block = .storeServerStarted true :: .wait :: afterWait ∨ s.block = .wait :: afterWait
  server : s.memory.mServer.mServer = some .serving
  disposition : ∀ signal, s.memory.disposition signal = .default

/-- There is no server, and only the destructor is left. -/
structure Failed (s : Thread Statement Process) : Prop where
  statements : ∀ i ∈ s.block ++ s.rest, i ∈ Process.destroy
  server : s.memory.mServer.mServer = none

/-- No signal changes anything before the handlers are installed. -/
theorem not_mem_interrupts {m m' : Process}
    (h : ∀ signal, m.disposition signal = .default) : m' ∉ m.interrupts := by
  rw [Process.mem_interrupts_iff]
  intro hinterrupt
  rcases hinterrupt with ⟨signal, hhandler, -⟩
  rw [h signal] at hhandler
  cases hhandler

/-- The wait for a server that nobody but the waiting thread can shut down. -/
theorem waits_forever {m : Process} {block rest : List Statement}
    (h : Reaches (Process.language starts options) ⟨m, .wait :: block, rest⟩ t)
    (hserver : m.mServer.mServer = some .serving)
    (hdisposition : ∀ signal, m.disposition signal = .default) :
    t.block = .wait :: block ∧ t.memory.mServer.mServer = some .serving ∧
      ∀ signal, t.memory.disposition signal = .default := by
  let Closed (m : Process) : Prop :=
    m.mServer.mServer = some .serving ∧ ∀ signal, m.disposition signal = .default
  have hblocks : ∀ m, Closed m → (Process.language starts options).execute .wait m = none := by
    intro m hm
    simp [Process.language, Process.execute, hm.1]
  have hkeeps : ∀ m m', Closed m → m' ∈ (Process.language starts options).interrupts m →
      Closed m' := by
    intro m m' hm hinterrupt
    exact absurd hinterrupt (not_mem_interrupts hm.2)
  obtain ⟨hclosed, hblock, -⟩ :=
    Threads.blocked_forever hblocks hkeeps ⟨hserver, hdisposition⟩ h
  exact ⟨hblock, hclosed⟩

/-- Neither a signal nor the main thread gets the process out of service. -/
theorem inService_forever (hs : InService s)
    (h : Reaches (Process.language starts options) s t) : InService t := by
  rcases hs with ⟨hblock | hblock, hserver, hdisposition⟩
  · rcases Relation.ReflTransGen.cases_head h with rfl | ⟨u, hfirst, hrest⟩
    · exact ⟨Or.inl hblock, hserver, hdisposition⟩
    · rcases Threads.step_of_block_eq_cons hblock hfirst with ⟨outcome, hexecute, rfl⟩ |
        ⟨m, hinterrupt, -⟩
      · cases hexecute
        have hwaiting : Reaches (Process.language starts options)
            ⟨{ s.memory with mServer := { s.memory.mServer with mServerStarted := true } },
              .wait :: afterWait, s.rest⟩ t := hrest
        obtain ⟨hwait, hkept⟩ := waits_forever hwaiting hserver hdisposition
        exact ⟨Or.inr hwait, hkept.1, hkept.2⟩
      · exact absurd hinterrupt (not_mem_interrupts hdisposition)
  · rcases s with ⟨m, block, rest⟩
    obtain rfl : block = .wait :: afterWait := hblock
    obtain ⟨hwait, hkept⟩ := waits_forever h hserver hdisposition
    exact ⟨Or.inr hwait, hkept.1, hkept.2⟩

theorem starting_step (hs : Starting s) (hstep : Step (Process.language starts options) s t) :
    Starting t ∨ (starts options.configure = true ∧ InService t) ∨
      (starts options.configure = false ∧ Failed t) := by
  rcases hs with ⟨hblock | hblock, hrest, hserver, hdisposition⟩
  · rcases Threads.step_of_block_eq_cons hblock hstep with ⟨outcome, hexecute, rfl⟩ |
      ⟨m, hinterrupt, -⟩
    · cases hexecute
      exact Or.inl ⟨Or.inr rfl, hrest, hserver, hdisposition⟩
    · exact absurd hinterrupt (not_mem_interrupts hdisposition)
  · rcases Threads.step_of_block_eq_cons hblock hstep with ⟨outcome, hexecute, rfl⟩ |
      ⟨m, hinterrupt, -⟩
    · cases hstarts : starts options.configure with
      | true =>
          simp only [Process.language, Process.execute, hstarts, if_true] at hexecute
          cases hexecute
          exact Or.inr (Or.inl ⟨rfl, Or.inl rfl, rfl, hdisposition⟩)
      | false =>
          simp only [Process.language, Process.execute, hstarts] at hexecute
          cases hexecute
          -- The exception leaves the statements of the destructor.
          refine Or.inr (Or.inr ⟨rfl, ?_, rfl⟩)
          intro i hi
          rw [← hrest]
          exact hi
    · exact absurd hinterrupt (not_mem_interrupts hdisposition)

/-- The destructor finds no server to shut down. -/
theorem execute_of_mem_destroy {i : Statement} {m : Process} (hi : i ∈ Process.destroy)
    (hserver : m.mServer.mServer = none) (starts : Bool) :
    ∃ m', Process.execute starts i m = some (.continues m' []) ∧ m'.mServer.mServer = none := by
  simp only [Process.destroy, Process.stop, ServerImpl.destroy, ServerImpl.stop,
    List.mem_append, List.mem_cons, List.not_mem_nil, or_false] at hi
  rcases hi with (rfl | rfl) | rfl | rfl
  · exact ⟨_, rfl, hserver⟩
  · exact ⟨m, by simp [Process.execute, hserver], hserver⟩
  · exact ⟨m, by simp [Process.execute, hserver], hserver⟩
  · exact ⟨_, rfl, rfl⟩

theorem failed_step (hs : Failed s) (hstep : Step (Process.language starts options) s t) :
    Failed t := by
  rcases hs with ⟨hstatements, hserver⟩
  cases hstep with
  | executes hexecute =>
      obtain ⟨m', hrun, hnone⟩ :=
        execute_of_mem_destroy (hstatements _ List.mem_cons_self) hserver
          (starts options.configure)
      obtain rfl := Option.some.inj (hrun.symm.trans hexecute)
      exact ⟨fun i hi => hstatements i (List.mem_cons_of_mem _ hi), hnone⟩
  | leaves => exact ⟨fun i hi => hstatements i (by simpa using hi), hserver⟩
  | interrupted hinterrupt =>
      obtain ⟨signal, -, rfl⟩ := Process.mem_interrupts_iff.mp hinterrupt
      exact ⟨hstatements, hserver⟩

/-- Where the life of a process can be, by whether the server could be started. -/
theorem isReachable_cases (h : Process.IsReachable starts options s) :
    Starting s ∨ (starts options.configure = true ∧ InService s) ∨
      (starts options.configure = false ∧ Failed s) := by
  have hinit : Starting Process.init := ⟨Or.inl rfl, rfl, rfl, fun _ => rfl⟩
  refine Reaches.keeps (P := fun s => Starting s ∨
    (starts options.configure = true ∧ InService s) ∨
      (starts options.configure = false ∧ Failed s)) ?_ h (Or.inl hinit)
  intro s t hs hstep
  rcases hs with hs | ⟨hstarts, hs⟩ | ⟨hfails, hs⟩
  · exact starting_step hs hstep
  · exact Or.inr (Or.inl ⟨hstarts, inService_forever hs (Reaches.step hstep)⟩)
  · exact Or.inr (Or.inr ⟨hfails, failed_step hs hstep⟩)

/-- A process that serves waits, with the default actions for both signals. -/
theorem inService_of_isServing (h : Process.IsReachable starts options s)
    (hserving : Process.IsServing s) : starts options.configure = true ∧ InService s := by
  unfold Process.IsServing at hserving
  rcases isReachable_cases h with hs | hs | ⟨-, hs⟩
  · rw [hs.server] at hserving
    cases hserving
  · exact hs
  · rw [hs.server] at hserving
    cases hserving

/-- Even with a signal on record the server is not asked to shut down. -/
theorem not_isShutDown_of_inService (hs : InService s) {signal : Signal}
    (h : Reaches (Process.language starts options) (Process.interrupted signal s) t) :
    ¬ Process.IsShutDown t := by
  have hrecorded : InService (Process.interrupted signal s) :=
    ⟨hs.block, hs.server, hs.disposition⟩
  intro hshutdown
  unfold Process.IsShutDown at hshutdown
  rw [(inService_forever hrecorded h).server] at hshutdown
  cases hshutdown

/-- The main thread at the wait, before any signal. -/
def waiting : Thread Statement Process where
  memory :=
    { mServer := { mServer := some .serving, mServerStarted := true }
      mKeepRunning := true }
  block := .wait :: afterWait
  rest := Process.destroy

/-- A process that can start its server gets to the wait. -/
theorem waiting_isReachable (hstarts : starts options.configure = true) :
    Process.IsReachable starts options waiting := by
  have hbuild : (Process.language starts options).execute .buildAndStart
      { mKeepRunning := true } = some (.continues
        { mKeepRunning := true, mServer := { mServer := some .serving } } []) := by
    simp [Process.language, Process.execute, hstarts]
  exact Reaches.execute rfl (Reaches.execute hbuild (Reaches.execute rfl Reaches.refl))

/-- From the request to stop on. -/
theorem requested_shuts_down {m : Process} {block rest : List Statement}
    (hserver : m.mServer.mServer = some .serving) (hstarted : m.mServer.mServerStarted = true)
    (hrequested : m.mStopProcessRequested = true) :
    ∃ t, Reaches (Process.language starts options) ⟨m, .ifStopRequested :: block, rest⟩ t ∧
      Process.IsShutDown t := by
  have hif : (Process.language starts options).execute .ifStopRequested m =
      some (.continues m [.storeKeepRunning false, .ifServerStarted]) := by
    simp [Process.language, Process.execute, Process.stop, ServerImpl.stop, hrequested]
  have hexchange : (Process.language starts options).execute .ifServerStarted
      { m with mKeepRunning := false } = some (.continues
        { m with
          mKeepRunning := false
          mServer := { m.mServer with mServerStarted := false } }
        [.shutdown, .resetServer]) := by
    simp [Process.language, Process.execute, hserver, hstarted]
  refine ⟨_, Reaches.execute hif (Reaches.execute rfl (Reaches.execute hexchange
    (Reaches.execute rfl Reaches.refl))), rfl⟩

/-- The loop that the wait keeps from running would shut the server down. -/
theorem loop_shuts_down {m : Process} {block rest : List Statement}
    (hserver : m.mServer.mServer = some .serving) (hstarted : m.mServer.mServerStarted = true)
    (hinterrupted : m.mInterrupted = true) :
    ∃ t, Reaches (Process.language starts options)
        ⟨m, .whileNotStopRequested :: .ifStopRequested :: block, rest⟩ t ∧
      Process.IsShutDown t := by
  cases hrequested : m.mStopProcessRequested with
  | true =>
      obtain ⟨t, hreaches, ht⟩ := requested_shuts_down hserver hstarted hrequested
      have hwhile : (Process.language starts options).execute .whileNotStopRequested m =
          some (.continues m []) := by
        simp [Process.language, Process.execute, hrequested]
      exact ⟨t, Reaches.execute hwhile hreaches, ht⟩
  | false =>
      -- One turn of the loop sees the interrupt and asks to stop.
      obtain ⟨t, hreaches, ht⟩ :=
        requested_shuts_down (m := { m with mStopProcessRequested := true }) hserver hstarted rfl
      have hwhile : (Process.language starts options).execute .whileNotStopRequested m =
          some (.continues m [.ifInterrupted]) := by
        simp [Process.language, Process.execute, hrequested]
      have hif : (Process.language starts options).execute .ifInterrupted m =
          some (.continues { m with mStopProcessRequested := true } []) := by
        simp [Process.language, Process.execute, hinterrupted]
      exact ⟨t, Reaches.execute hwhile (Reaches.execute hif hreaches), ht⟩

end Life

/-- A process can be stopped cleanly whenever it serves only if it never does, for want
of a server that starts.  Wherever it serves, neither handler is installed: a signal is
its end, and one on record would not get the server shut down. -/
theorem serving_stops_cleanly_iff (starts : ServerBuilder → Bool) (options : ServerOptions) :
    ((∀ s, Process.IsReachable starts options s → Process.IsServing s →
        StopsCleanly starts options s) ↔ starts options.configure = false) ∧
      ∀ s, Process.IsReachable starts options s → Process.IsServing s →
        ∀ signal, s.memory.disposition signal = .default ∧ s.memory.raise signal = none ∧
          ∀ t, Reaches (Process.language starts options) (Process.interrupted signal s) t →
            ¬ Process.IsShutDown t := by
  have hnever : ∀ s, Process.IsReachable starts options s → Process.IsServing s →
      ∀ signal, s.memory.disposition signal = .default ∧ s.memory.raise signal = none ∧
        ∀ t, Reaches (Process.language starts options) (Process.interrupted signal s) t →
          ¬ Process.IsShutDown t := by
    intro s hreachable hserving signal
    obtain ⟨-, hs⟩ := inService_of_isServing hreachable hserving
    exact ⟨hs.disposition signal, Process.raise_eq_none_iff.mpr (hs.disposition signal),
      fun t => not_isShutDown_of_inService hs⟩
  refine ⟨⟨?_, ?_⟩, hnever⟩
  · intro h
    cases hstarts : starts options.configure with
    | false => rfl
    | true =>
        have hwaiting : Process.IsReachable starts options waiting := waiting_isReachable hstarts
        obtain ⟨t, hreaches, ht⟩ := (h waiting hwaiting rfl).stops .sigterm
        exact absurd ht ((hnever waiting hwaiting rfl .sigterm).2.2 t hreaches)
  · intro hfails s hreachable hserving
    obtain ⟨hstarts, -⟩ := inService_of_isServing hreachable hserving
    rw [hfails] at hstarts
    cases hstarts

/-- With the default options and a free port: the process serves, a `SIGTERM` is its end,
and one on record does not get the server shut down. -/
theorem default_process_is_killed :
    Process.IsReachable (fun _ => true) {} waiting ∧ Process.IsServing waiting ∧
      waiting.memory.raise .sigterm = none ∧
      (∀ t, Reaches (Process.language (fun _ => true) {})
        (Process.interrupted .sigterm waiting) t → ¬ Process.IsShutDown t) ∧
      ¬ StopsCleanly (fun _ => true) {} waiting := by
  have hreachable : Process.IsReachable (fun _ => true) {} waiting := waiting_isReachable rfl
  have hs : InService waiting := (inService_of_isServing hreachable rfl).2
  refine ⟨hreachable, rfl, rfl, fun t => not_isShutDown_of_inService hs, ?_⟩
  intro hclean
  have hhandler := hclean.handlers .sigterm
  rw [hs.disposition .sigterm] at hhandler
  cases hhandler

end Properties
end ULocalMagnitude
