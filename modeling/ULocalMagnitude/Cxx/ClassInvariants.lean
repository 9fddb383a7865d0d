import ULocalMagnitude.Cxx.Ownership

/-!
# Class invariants in whole programs

What the constructors of a class establish and its methods keep holds of every object that a
program has, however objects are copied, moved and destroyed, whichever calls throw and
whenever memory runs out.  An object that a constructor or a method is given has to be one of
the program.

* `Values.Runs.all` — the rule for classes as one;
* `Classes.KeepEach.together` — the rule for each class by itself.

`Method.ChecksFirst` is what the setters of such classes have in common: their arguments alone
decide whether they throw, and they have not looked at their object then.
-/

namespace ULocalMagnitude
namespace Cxx

/-! ## Checks of arguments -/

namespace Method

variable {σ α : Type}

/-- The method returns for all objects, or it throws for all of them and changes none. -/
def ChecksFirst (m : Method σ α) : Prop :=
  (∀ s, ∃ a after, m s = .ok a after) ∨ ∃ fault, ∀ s, m s = .error fault s

/-- What the method throws at an object. -/
def thrownAt (m : Method σ α) (s : σ) : Option Fault :=
  match m s with
  | .ok _ _ => none
  | .error fault _ => some fault

namespace ChecksFirst

theorem modify (f : σ → σ) : ChecksFirst (modify f : Method σ Unit) :=
  Or.inl fun s => ⟨(), f s, rfl⟩

theorem lift_bind {β : Type} {x : Throws α} {f : α → Method σ β} (hf : ∀ a, ChecksFirst (f a)) :
    ChecksFirst (liftM x >>= f) := by
  cases x with
  | ok a => exact hf a
  | error fault => exact Or.inr ⟨fault, fun _ => rfl⟩

/-- A method that returns for all objects, whatever it looks at. -/
theorem get_bind {f : σ → Method σ α} (hf : ∀ s, ∃ a after, f s s = .ok a after) :
    ChecksFirst (get >>= f) :=
  Or.inl hf

theorem bind_pure {m : Method σ α} {β : Type} (h : m.ChecksFirst) (b : β) :
    ChecksFirst (m >>= fun _ => pure b) := by
  rcases h with hreturns | ⟨fault, hthrows⟩
  · refine Or.inl fun s => ⟨b, ?_⟩
    obtain ⟨a, after, hok⟩ := hreturns s
    refine ⟨after, ?_⟩
    show EStateM.bind m (fun _ => EStateM.pure b) s = _
    unfold EStateM.bind
    rw [hok]
    rfl
  · refine Or.inr ⟨fault, fun s => ?_⟩
    show EStateM.bind m (fun _ => EStateM.pure b) s = _
    unfold EStateM.bind
    rw [hthrows s]

/-- Whether a method throws does not depend on the object. -/
theorem thrownAt_eq_some_iff {m : Method σ α} (h : m.ChecksFirst) {s : σ} {fault : Fault} :
    m.thrownAt s = some fault ↔ ∀ t, m t = .error fault t := by
  rcases h with hreturns | ⟨other, hthrows⟩
  · obtain ⟨a, after, hok⟩ := hreturns s
    unfold thrownAt
    rw [hok]
    refine iff_of_false nofun fun hall => ?_
    rw [hall s] at hok
    cases hok
  · unfold thrownAt
    rw [hthrows s]
    constructor
    · intro hsame t
      rw [← Option.some.inj hsame]
      exact hthrows t
    · intro hall
      have hsame := (hthrows s).symm.trans (hall s)
      injection hsame with hsame
      exact congrArg some hsame

theorem thrownAt_eq_none_iff {m : Method σ α} (h : m.ChecksFirst) {s : σ} :
    m.thrownAt s = none ↔ ∀ t, ∃ a after, m t = .ok a after := by
  rcases h with hreturns | ⟨fault, hthrows⟩
  · obtain ⟨a, after, hok⟩ := hreturns s
    refine iff_of_true ?_ hreturns
    unfold thrownAt
    rw [hok]
  · unfold thrownAt
    rw [hthrows s]
    refine iff_of_false nofun fun hall => ?_
    obtain ⟨a, after, hok⟩ := hall s
    rw [hthrows s] at hok
    cases hok

end ChecksFirst
end Method

namespace Ownership

variable {σ κ ι Name : Type}

/-- The object after a call, whether it returned or threw. -/
def objectAfter : EStateM.Result Fault σ Unit → σ
  | .ok () after => after
  | .error _ after => after

/-- What a statement gives to a constructor or a method it has read from objects. -/
def Statement.Passes (pointerClass : PointerClass σ κ ι) : Statement σ κ ι Name → Prop
  | .construct _ _ select => ∀ others constructor, select others = some constructor →
      ∀ other ∈ pointerClass.constructorTakes constructor, other ∈ others
  | .copyConstruct _ _ => True
  | .moveConstruct _ _ => True
  | .copyAssign _ _ => True
  | .moveAssign _ _ => True
  | .call _ _ select => ∀ others call, select others = some call →
      ∀ other ∈ pointerClass.methodTakes call, other ∈ others
  | .destroy _ => True

/-- What is made of good objects, or changed with them, is good. -/
structure Keeps (pointerClass : PointerClass σ κ ι) (good : σ → Prop) : Prop where
  constructed : ∀ constructor value,
    (∀ other ∈ pointerClass.constructorTakes constructor, good other) →
      pointerClass.constructed constructor = .ok value → good value
  method : ∀ call value result, (∀ other ∈ pointerClass.methodTakes call, good other) →
    good value → pointerClass.method call value = some result → good (objectAfter result)

/-- The objects with data are good. -/
def Values.All (good : σ → Prop) (values : Values Name σ) : Prop :=
  ∀ object value, values object = some (some value) → good value

namespace Values

variable {good : σ → Prop} {values after : Values Name σ}

theorem All.empty : All good (fun _ => none : Values Name σ) := fun _ _ h => nomatch h

theorem All.read (h : values.All good) {object : Name} {value : σ}
    (hread : values.read object = some value) : good value :=
  h object value (Option.join_eq_some_iff.mp hread)

theorem All.reads (h : values.All good) {arguments : List Name} {others : List σ}
    (hreads : arguments.mapM values.read = some others) : ∀ other ∈ others, good other := by
  induction arguments generalizing others with
  | nil =>
      obtain rfl := Option.some.inj hreads
      exact nofun
  | cons argument rest ih =>
      rw [List.mapM_cons] at hreads
      obtain ⟨value, hvalue, hreads⟩ := Option.bind_eq_some_iff.mp hreads
      obtain ⟨restOthers, hrest, hreads⟩ := Option.bind_eq_some_iff.mp hreads
      obtain rfl := Option.some.inj hreads
      intro other hother
      rcases List.mem_cons.mp hother with rfl | hother
      · exact h.read hvalue
      · exact ih hrest other hother

variable [DecidableEq Name]

theorem All.update (h : values.All good) (object : Name) (data : Option (Movable σ))
    (hdata : ∀ value, data = some (some value) → good value) :
    All good (Function.update values object data) := by
  intro other value hother
  rw [Function.update_apply] at hother
  split at hother
  · exact hdata value hother
  · exact h other value hother

theorem All.store (h : values.All good) (object : Name) {value : σ} (hgood : good value) :
    All good (Function.update values object (some (some value))) := by
  refine h.update object _ fun stored hstored => ?_
  obtain rfl := Option.some.inj (Option.some.inj hstored)
  exact hgood

theorem All.copyAssign (h : values.All good) {object other : Name}
    (hassign : values.copyAssign object other = some after) : after.All good := by
  obtain ⟨owned, -, hassign⟩ := Option.bind_eq_some_iff.mp hassign
  split at hassign
  · obtain rfl := Option.some.inj hassign
    exact h
  · obtain ⟨value, hvalue, hassign⟩ := Option.bind_eq_some_iff.mp hassign
    obtain rfl := Option.some.inj hassign
    exact h.store object (h.read hvalue)

theorem All.moveAssign (h : values.All good) {object other : Name}
    (hassign : values.moveAssign object other = some after) : after.All good := by
  obtain ⟨owned, -, hassign⟩ := Option.bind_eq_some_iff.mp hassign
  split at hassign
  · obtain rfl := Option.some.inj hassign
    exact h
  · obtain ⟨moved, hmoved, hassign⟩ := Option.bind_eq_some_iff.mp hassign
    obtain rfl := Option.some.inj hassign
    refine All.update (h.update other (some none) nofun) object _ fun value hvalue => ?_
    obtain rfl := Option.some.inj hvalue
    exact h other value hmoved

theorem All.call {pointerClass : PointerClass σ κ ι} (hkeeps : Keeps pointerClass good)
    (h : values.All good) {object : Name} {arguments : List Name} {select : List σ → Option ι}
    (hpasses : (Statement.call object arguments select).Passes pointerClass) {ending : Ending}
    (hcall : values.call pointerClass object arguments select = some (ending, after)) :
    after.All good := by
  obtain ⟨data, -, hcall⟩ := Option.bind_eq_some_iff.mp hcall
  obtain ⟨others, hothers, hcall⟩ := Option.bind_eq_some_iff.mp hcall
  obtain ⟨selected, hselected, hcall⟩ := Option.bind_eq_some_iff.mp hcall
  cases hrefuses : pointerClass.refuses selected with
  | some fault =>
      rw [hrefuses] at hcall
      obtain ⟨ending, -, hcall⟩ := Option.bind_eq_some_iff.mp hcall
      obtain ⟨-, rfl⟩ := Prod.mk.inj (Option.some.inj hcall)
      exact h
  | none =>
      rw [hrefuses] at hcall
      obtain ⟨value, hvalue, hcall⟩ := Option.bind_eq_some_iff.mp hcall
      obtain ⟨result, hresult, hcall⟩ := Option.bind_eq_some_iff.mp hcall
      have hgood : good (objectAfter result) := hkeeps.method selected value result
        (fun other hother =>
          h.reads hothers other (hpasses others selected hselected other hother))
        (h.read hvalue) hresult
      cases result with
      | ok passed changed =>
          obtain ⟨-, rfl⟩ := Prod.mk.inj (Option.some.inj hcall)
          exact h.store object hgood
      | error fault changed =>
          obtain ⟨ending, -, hcall⟩ := Option.bind_eq_some_iff.mp hcall
          obtain ⟨-, rfl⟩ := Prod.mk.inj (Option.some.inj hcall)
          exact h.store object hgood

theorem All.step {pointerClass : PointerClass σ κ ι} (hkeeps : Keeps pointerClass good)
    (h : values.All good) {statement : Statement σ κ ι Name}
    (hpasses : statement.Passes pointerClass) {ending : Ending}
    (hstep : values.step pointerClass statement = some (ending, after)) : after.All good := by
  cases statement with
  | construct object arguments select =>
      unfold Values.step at hstep
      dsimp only at hstep
      split at hstep
      · exact nomatch hstep
      · obtain ⟨others, hothers, hstep⟩ := Option.bind_eq_some_iff.mp hstep
        obtain ⟨constructor, hselect, hstep⟩ := Option.bind_eq_some_iff.mp hstep
        cases hvalue : pointerClass.constructed constructor with
        | error fault =>
            rw [hvalue] at hstep
            obtain ⟨ending, -, hstep⟩ := Option.bind_eq_some_iff.mp hstep
            obtain ⟨-, rfl⟩ := Prod.mk.inj (Option.some.inj hstep)
            exact h
        | ok value =>
            rw [hvalue] at hstep
            obtain ⟨-, rfl⟩ := Prod.mk.inj (Option.some.inj hstep)
            exact h.store object <| hkeeps.constructed constructor value (fun other hother =>
              h.reads hothers other (hpasses others constructor hselect other hother)) hvalue
  | copyConstruct object other =>
      unfold Values.step at hstep
      dsimp only at hstep
      split at hstep
      · exact nomatch hstep
      · obtain ⟨copied, hcopied, hstep⟩ := Option.map_eq_some_iff.mp hstep
        obtain ⟨-, rfl⟩ := Prod.mk.inj hstep
        exact (h.update object (some none) nofun).copyAssign hcopied
  | moveConstruct object other =>
      unfold Values.step at hstep
      dsimp only at hstep
      split at hstep
      · exact nomatch hstep
      · obtain ⟨moved, hmoved, hstep⟩ := Option.map_eq_some_iff.mp hstep
        obtain ⟨-, rfl⟩ := Prod.mk.inj hstep
        exact (h.update object (some none) nofun).moveAssign hmoved
  | copyAssign object other =>
      obtain ⟨copied, hcopied, hstep⟩ := Option.map_eq_some_iff.mp hstep
      obtain ⟨-, rfl⟩ := Prod.mk.inj hstep
      exact h.copyAssign hcopied
  | moveAssign object other =>
      obtain ⟨moved, hmoved, hstep⟩ := Option.map_eq_some_iff.mp hstep
      obtain ⟨-, rfl⟩ := Prod.mk.inj hstep
      exact h.moveAssign hmoved
  | call object arguments select => exact h.call hkeeps hpasses hstep
  | destroy object =>
      obtain ⟨owned, -, hstep⟩ := Option.map_eq_some_iff.mp hstep
      obtain ⟨-, rfl⟩ := Prod.mk.inj hstep
      exact h.update object none nofun

/-- Objects are good in all programs. -/
theorem Runs.all {pointerClass : PointerClass σ κ ι} (hkeeps : Keeps pointerClass good)
    {statements : List (Statement σ κ ι Name)} {endings : List Ending}
    {last : Values Name σ} (h : Values.Runs pointerClass statements endings values last)
    (hpasses : ∀ statement ∈ statements, statement.Passes pointerClass)
    (hgood : values.All good) : last.All good := by
  induction h with
  | done => exact hgood
  | next hstep _ ih =>
      rw [List.forall_mem_cons] at hpasses
      exact ih hpasses.2 (hgood.step hkeeps hpasses.1 hstep)
  | outOfMemory _ _ _ ih =>
      rw [List.forall_mem_cons] at hpasses
      exact ih hpasses.2 hgood

end Values

/-! ## The classes of a program -/

section Family

variable {C : Type} {data constructors methods : C → Type}

/-- The members of each class.  Arguments may be objects of other classes. -/
structure Classes (data constructors methods : C → Type) where
  constructed : ∀ c, constructors c → Throws (data c)
  refuses : ∀ c, methods c → Option Fault
  method : ∀ c, methods c → Method (data c) Unit
  constructorTakes : ∀ c, constructors c → List (Sigma data)
  methodTakes : ∀ c, methods c → List (Sigma data)

/-- A result of a method, about the object it is one of. -/
def resultOf (c : C) : EStateM.Result Fault (data c) Unit → EStateM.Result Fault (Sigma data) Unit
  | .ok () after => .ok () ⟨c, after⟩
  | .error fault after => .error fault ⟨c, after⟩

/-- The classes as one.  An object has the methods of its class. -/
def Classes.together [DecidableEq C] (classes : Classes data constructors methods) :
    PointerClass (Sigma data) (Sigma constructors) (Sigma methods) where
  constructed constructor := Sigma.mk constructor.1 <$> classes.constructed _ constructor.2
  refuses call := classes.refuses _ call.2
  method call object :=
    if h : object.1 = call.1 then
      some (resultOf call.1 (classes.method call.1 call.2 (h ▸ object.2)))
    else none
  constructorTakes constructor := classes.constructorTakes _ constructor.2
  methodTakes call := classes.methodTakes _ call.2

/-- What each class keeps. -/
structure Classes.KeepEach (classes : Classes data constructors methods)
    (good : ∀ c, data c → Prop) : Prop where
  constructed : ∀ c constructor value,
    (∀ other ∈ classes.constructorTakes c constructor, good other.1 other.2) →
      classes.constructed c constructor = .ok value → good c value
  method : ∀ c call value, (∀ other ∈ classes.methodTakes c call, good other.1 other.2) →
    good c value → good c ((classes.method c call).state value)

theorem Classes.KeepEach.together [DecidableEq C] {classes : Classes data constructors methods}
    {good : ∀ c, data c → Prop} (h : classes.KeepEach good) :
    Keeps classes.together fun object => good object.1 object.2 where
  constructed := by
    rintro ⟨c, constructor⟩ value htakes hvalue
    unfold Classes.together at hvalue
    dsimp only at hvalue
    cases hmade : classes.constructed c constructor with
    | error fault =>
        rw [hmade] at hvalue
        exact nomatch hvalue
    | ok made =>
        rw [hmade] at hvalue
        obtain rfl := Except.ok.inj hvalue
        exact h.constructed c constructor made htakes hmade
  method := by
    rintro ⟨c, call⟩ ⟨c', value⟩ result htakes hgood hresult
    unfold Classes.together at hresult
    dsimp only at hresult
    split at hresult
    · next hclass =>
      subst hclass
      obtain rfl := Option.some.inj hresult
      have hafter := h.method c' call value htakes hgood
      unfold Method.state at hafter
      dsimp only
      cases hcall : classes.method c' call value with
      | ok passed after =>
          rw [hcall] at hafter
          exact hafter
      | error fault after =>
          rw [hcall] at hafter
          exact hafter
    · exact nomatch hresult

end Family

end Ownership
end Cxx
end ULocalMagnitude
