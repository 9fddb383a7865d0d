import ULocalMagnitude.Grpc.Exits
import ULocalMagnitude.Grpc.StationCorrections
import ULocalMagnitude.Interleaving
import ULocalMagnitude.Metrics.Singleton

/-!
# Calls

The calls on the three routes of a service, any number of them at a time.  What others can
see of a handler are the increments of counters and the calls of `Finish`; in between,
other handlers do the same.  After `Finish` gRPC calls `OnDone`, once.
-/

namespace ULocalMagnitude
namespace Grpc

open Cxx
open Corrections (Distance Hypocenter StationsSet)
open Interleaving (System Pool Job)
open Magnitude (NetworkMagnitudeCalculator Observation)
open Magnitude.NetworkMagnitudeCalculator (Admitted IsAnswerable IsRepresentable)

variable {F : Type} [Arithmetic F] {R : Type}

/-- A step of a handler. -/
inductive Action where
  /-- `metrics.increment...Counter(mRouteName)` -/
  | increment (counter : Counter) (route : String)
  /-- `Finish(status)` -/
  | finish (status : Status)
  /-- `std::terminate` -/
  | terminate
deriving DecidableEq

/-- What the constructor of a reactor has done, and what `OnDone` does after it. -/
def Reactor.script (reactor : Reactor R) : List Action :=
  reactor.incremented.map (fun item => .increment item.1 item.2) ++
    reactor.finished.map .finish ++
    (reactor.onDone.incremented.drop reactor.incremented.length).map fun item =>
      .increment item.1 item.2

/-- The codes that `Finish` was called with. -/
def finishCodes (actions : List Action) : List StatusCode :=
  actions.filterMap fun action =>
    match action with
    | .finish status => some status.code
    | _ => none

/-- What all handlers share. -/
structure Shared where
  metrics : Metrics.Singleton := {}
  terminated : Bool := false

/-- What an action does to it. -/
def Action.act : Action → Shared → Shared
  | .increment counter route, shared =>
      { shared with metrics := shared.metrics.increment counter route }
  | .finish _, shared => shared
  | .terminate, shared => { shared with terminated := true }

/-- What an action adds to a count. -/
def Action.weight (counter : Counter) (route : String) : Action → Int
  | .increment counter' route' => if counter' = counter ∧ route' = route then 1 else 0
  | .finish _ => 0
  | .terminate => 0

theorem Action.count_act {route : String} (hroute : route ≠ "") (counter : Counter)
    (action : Action) (shared : Shared) :
    (action.act shared).metrics.count counter route =
      shared.metrics.count counter route + action.weight counter route := by
  cases action with
  | increment counter' route' => exact Metrics.Singleton.count_increment hroute _ _ _ _
  | finish status => exact (Int.add_zero _).symm
  | terminate => exact (Int.add_zero _).symm

/-- A call on one of the three routes. -/
inductive Rpc (F : Type) where
  | computeNetworkMagnitudeFromAmplitudes (clientMetadata : ClientMetadata)
      (request : Api.NetworkMagnitudeFromAmplitudesRequest F)
  | computeStationMagnitudesFromAmplitudes (clientMetadata : ClientMetadata)
      (request : Api.StationMagnitudesFromAmplitudesRequest F)
  | getStationCorrections (clientMetadata : ClientMetadata)
      (request : Api.StationCorrectionsRequest)

namespace Rpc

/-- `mRouteName` -/
def route : Rpc F → String
  | .computeNetworkMagnitudeFromAmplitudes _ _ => "ComputeNetworkMagnitudeFromAmplitudes"
  | .computeStationMagnitudesFromAmplitudes _ _ => "ComputeStationMagnitudesFromAmplitudes"
  | .getStationCorrections _ _ => "GetStationCorrections"

/-- The reactor of a call, without the response. -/
def reactor (inverse : Distance.Inverse F) (version : Version) (service : MagnitudeService F) :
    Rpc F → Throws (Reactor Unit)
  | .computeNetworkMagnitudeFromAmplitudes clientMetadata request =>
      Handler.seen (fun _ => ()) <$>
        MagnitudeService.networkReactor inverse version service clientMetadata request
  | .computeStationMagnitudesFromAmplitudes clientMetadata request =>
      Handler.seen (fun _ => ()) <$>
        MagnitudeService.stationReactor inverse version service clientMetadata request
  | .getStationCorrections clientMetadata request =>
      Handler.seen (fun _ => ()) <$>
        MagnitudeService.correctionsReactor service clientMetadata request

/-- The steps of the handler of a call.  A fault that leaves it is the end of the process;
it comes before any other step, and it is no exception. -/
def script (inverse : Distance.Inverse F) (version : Version) (service : MagnitudeService F)
    (rpc : Rpc F) : List Action :=
  match rpc.reactor inverse version service with
  | .ok reactor => reactor.script
  | .error _ => [.terminate]

end Rpc

/-- The handlers of a service next to each other. -/
def handlers (inverse : Distance.Inverse F) (version : Version) (service : MagnitudeService F) :
    System (Rpc F) Action Shared where
  script := Rpc.script inverse version service
  act := Action.act
  IsRunning shared := shared.terminated = false

/-- Before the first call. -/
def noCalls : Pool (Rpc F) Action Shared := ⟨{}, []⟩

/-! ## Which calls are finished -/

/-- For every observation of the call the corrections are numbers wherever they are used, no
number overflows on the way to the magnitude and the average amplitude does not underflow;
or the client is refused first. -/
def Rpc.IsSafe (inverse : Distance.Inverse F) (service : MagnitudeService F)
    (distance : Distance F) (set : StationsSet F) : Rpc F → Prop
  | .computeNetworkMagnitudeFromAmplitudes clientMetadata request =>
      service.Authorizes clientMetadata → ∀ observations,
        MagnitudeService.decode inverse request.hypocenter
            request.stationAmplitudeMeasurements = .ok observations →
          Admitted service.mCalculator observations → ∀ o ∈ observations,
            IsAnswerable service.mCalculator distance set o ∧
              IsRepresentable service.mCalculator distance set o
  | .computeStationMagnitudesFromAmplitudes clientMetadata request =>
      service.Authorizes clientMetadata →
        ∀ o ∈ MagnitudeService.tried inverse request.hypocenter
            request.stationAmplitudeMeasurements,
          IsAnswerable service.mCalculator distance set o ∧
            IsRepresentable service.mCalculator distance set o
  | .getStationCorrections _ _ => True

namespace MagnitudeService

section Returns

variable {inverse : Distance.Inverse F} {service : MagnitudeService F} {distance : Distance F}
  {set : StationsSet F} {clientMetadata : ClientMetadata}
  (hwellFormed : service.mCalculator.WellFormed distance set)
  (hauthorized : service.Authorizes clientMetadata)

include hwellFormed hauthorized

theorem exists_networkReactor_iff (version : Version)
    (request : Api.NetworkMagnitudeFromAmplitudesRequest F) :
    (∃ reactor, networkReactor inverse version service clientMetadata request = .ok reactor) ↔
      ∀ observations,
        decode inverse request.hypocenter request.stationAmplitudeMeasurements =
            .ok observations →
          Admitted service.mCalculator observations → ∀ o ∈ observations,
            IsAnswerable service.mCalculator distance set o ∧
              IsRepresentable service.mCalculator distance set o := by
  rw [exists_networkReactor_iff_apply hauthorized]
  refine forall₂_congr fun observations hdecoded => ?_
  rw [NetworkMagnitudeCalculator.exists_apply_iff hwellFormed.initialized]
  exact forall_congr' fun _ => forall₂_congr fun o ho =>
    hwellFormed.exists_computeStationMagnitude_iff (inv_of_decode hdecoded o ho)

theorem exists_stationReactor_iff (version : Version)
    (request : Api.StationMagnitudesFromAmplitudesRequest F) :
    (∃ reactor, stationReactor inverse version service clientMetadata request = .ok reactor) ↔
      ∀ o ∈ tried inverse request.hypocenter request.stationAmplitudeMeasurements,
        IsAnswerable service.mCalculator distance set o ∧
          IsRepresentable service.mCalculator distance set o := by
  have hcomputes : (∀ o ∈ tried inverse request.hypocenter request.stationAmplitudeMeasurements,
        service.mCalculator.Computes o) ↔
      ∀ o ∈ tried inverse request.hypocenter request.stationAmplitudeMeasurements,
        IsAnswerable service.mCalculator distance set o ∧
          IsRepresentable service.mCalculator distance set o :=
    forall₂_congr fun o ho => hwellFormed.exists_computeStationMagnitude_iff (inv_of_tried o ho)
  rw [← hcomputes]
  have hends := stationReactor_ends inverse hauthorized version request
  generalize stationReactor inverse version service clientMetadata request = result at hends ⊢
  cases hends with
  | answered hdecoded hall =>
      refine iff_of_true ⟨_, rfl⟩ ?_
      obtain ⟨given, decoded, hgiven, hhypocenter, hdecodes⟩ := decode_eq_ok.mp hdecoded
      have htried := hdecodes.decodeUpTo_append []
      rw [List.append_nil, decodeUpTo, List.append_nil] at htried
      rw [hgiven, tried_some hhypocenter, htried]
      exact hall
  | refused hrefusal hall observations message => exact iff_of_true ⟨_, rfl⟩ hall
  | terminated hdecoded htried hfatal =>
      obtain ⟨o, ho, hnot⟩ := htried
      refine iff_of_false ?_ fun h => hnot (h o ho)
      intro h
      rcases h with ⟨_, h⟩
      cases h

/-- The corrections endpoint answers whatever the corrections are. -/
theorem exists_correctionsReactor (request : Api.StationCorrectionsRequest) :
    ∃ reactor, correctionsReactor service clientMetadata request = .ok reactor := by
  rcases correctionsReactor_cases hwellFormed hauthorized request with
    ⟨entries, -, heq⟩ | ⟨-, entries, heq⟩
  · exact ⟨_, heq⟩
  · exact ⟨_, heq⟩

/-! What leaves a handler is no exception, so gRPC does not get to catch anything. -/

omit hwellFormed in
theorem not_isException_of_networkReactor {version : Version}
    {request : Api.NetworkMagnitudeFromAmplitudesRequest F} {reason : Fault}
    (h : networkReactor inverse version service clientMetadata request = .error reason) :
    ¬ reason.IsException := by
  obtain ⟨observations, happly⟩ := exists_apply_of_networkReactor hauthorized h
  exact noexcept_error_not_isException happly

omit hwellFormed in
theorem not_isException_of_stationReactor {version : Version}
    {request : Api.StationMagnitudesFromAmplitudesRequest F} {reason : Fault}
    (h : stationReactor inverse version service clientMetadata request = .error reason) :
    ¬ reason.IsException := by
  have hends := stationReactor_ends inverse hauthorized version request
  rw [h] at hends
  cases hends with
  | terminated hdecoded htried hfatal => exact hfatal

end Returns

end MagnitudeService

/-! ## Scripts -/

/-- The steps of a handler that finishes and counts its call once, on this route and with
this code.  Refusals are counted in front of `Finish`, successes in `OnDone` behind it. -/
inductive Completes (route : String) : StatusCode → List Action → Prop where
  | refused (status : Status) (hcode : status.code ≠ .ok) :
      Completes route status.code [.increment (counterOf status.code) route, .finish status]
  | answered (message : String) :
      Completes route .ok [.finish { code := .ok, message }, .increment .success route]

theorem finishCodes_append (first second : List Action) :
    finishCodes (first ++ second) = finishCodes first ++ finishCodes second :=
  List.filterMap_append

theorem counterOf_injective : Function.Injective counterOf := by
  intro code code' h
  cases code <;> cases code' <;> first | rfl | cases h

namespace Completes

variable {route : String} {code : StatusCode} {actions : List Action}

theorem finishCodes_eq (h : Completes route code actions) : finishCodes actions = [code] := by
  cases h with
  | refused status hcode => rfl
  | answered message => rfl

theorem terminate_not_mem (h : Completes route code actions) : .terminate ∉ actions := by
  cases h with
  | refused status hcode => simp
  | answered message => simp

/-- The one counter that goes up is that of the route and the code. -/
theorem weight_sum (h : Completes route code actions) (counter : Counter) (route' : String) :
    (actions.map (Action.weight counter route')).sum =
      if route = route' ∧ counterOf code = counter then 1 else 0 := by
  cases h with
  | refused status hcode =>
      show (if _ ∧ _ then (1 : Int) else 0) + (0 + 0) = _
      rw [Int.add_zero, Int.add_zero]
      exact if_congr and_comm rfl rfl
  | answered message =>
      show (0 : Int) + ((if _ ∧ _ then 1 else 0) + 0) = _
      rw [Int.zero_add, Int.add_zero]
      exact if_congr and_comm rfl rfl

theorem weight_eq_zero (h : Completes route code actions) {route' : String}
    (hroute : route' ≠ route) (counter : Counter) :
    ∀ action ∈ actions, action.weight counter route' = 0 := by
  intro action haction
  cases h with
  | refused status hcode =>
      simp only [List.mem_cons, List.not_mem_nil, or_false] at haction
      rcases haction with rfl | rfl
      · exact if_neg fun h => hroute h.2.symm
      · rfl
  | answered message =>
      simp only [List.mem_cons, List.not_mem_nil, or_false] at haction
      rcases haction with rfl | rfl
      · rfl
      · exact if_neg fun h => hroute h.2.symm

end Completes

namespace Reactor

variable {reactor : Reactor R} {route : String}

theorem script_seen {S : Type} (see : R → S) (reactor : Reactor R) :
    (Handler.seen see reactor).script = reactor.script := by
  unfold script onDone
  cases hsuccess : reactor.mSuccess with
  | true => simp [Handler.seen, increment, hsuccess]
  | false => simp [Handler.seen, hsuccess]

theorem IsAnswered.completes (h : reactor.IsAnswered route) :
    Completes route .ok reactor.script := by
  have hscript : reactor.script =
      [.finish { code := .ok }, .increment .success route] := by
    unfold script onDone
    rw [if_pos h.success]
    simp [increment, h.incremented, h.finished, h.routeName]
  rw [hscript]
  exact .answered ""

theorem IsRefused.completes {codes : List StatusCode} (h : reactor.IsRefused codes route)
    (hcodes : .ok ∉ codes) : ∃ code, Completes route code reactor.script := by
  obtain ⟨status, hcode, hfinished, hincremented⟩ := h.refusal
  have hscript : reactor.script =
      [.increment (counterOf status.code) route, .finish status] := by
    unfold script onDone
    rw [if_neg (by simp [h.success])]
    simp [hincremented, hfinished]
  refine ⟨status.code, ?_⟩
  rw [hscript]
  -- `OnDone` counts nothing for it, and no refusal has the status that is counted there.
  refine .refused status ?_
  intro hok
  exact hcodes (hok ▸ hcode)

/-- The call of a client that is not authorized, on any route. -/
theorem completes_unauthenticatedAnswer (h : reactor.IsOpen route) :
    Completes route .unauthenticated
      (MagnitudeService.unauthenticatedAnswer reactor).script := by
  have hrefused : (MagnitudeService.unauthenticatedAnswer reactor).script =
      [.increment .unauthenticated route,
        .finish { code := .unauthenticated, message := "Invalid access token" }] := by
    unfold script onDone MagnitudeService.unauthenticatedAnswer refused
    rw [if_neg (by simp [increment, finish, h.success])]
    simp [increment, finish, h.incremented, h.finished, h.routeName]
  rw [hrefused]
  exact .refused { code := .unauthenticated, message := "Invalid access token" } (by decide)

end Reactor

/-- A handler of a service that is not left with a fault finishes and counts its call once,
if it does so for the clients that are authorized. -/
theorem MagnitudeService.completes_of_run {service : MagnitudeService F}
    {clientMetadata : ClientMetadata} {rest : Unit → Handler R Unit} {reactor after : Reactor R}
    {route : String} (hopen : reactor.IsOpen route)
    (hleft : service.Authorizes clientMetadata →
      after.IsAnswered route ∨ after.IsRefused refusals route)
    (h : Handler.run (service.checkClient clientMetadata >>= rest) reactor = .ok after) :
    ∃ code, Completes route code after.script := by
  by_cases hauthorized : service.Authorizes clientMetadata
  · rcases hleft hauthorized with hanswered | hrefused
    · exact ⟨.ok, hanswered.completes⟩
    · exact hrefused.completes (by decide)
  · obtain rfl := Except.ok.inj
      ((run_checkClient_of_not_authorized hauthorized rest reactor).symm.trans h)
    exact ⟨.unauthenticated, Reactor.completes_unauthenticatedAnswer hopen⟩

namespace Rpc

/-- The returned value of a call whose response is left out. -/
theorem map_seen_eq_ok {x : Throws (Reactor R)} {reactor : Reactor Unit}
    (h : Handler.seen (fun _ => ()) <$> x = .ok reactor) :
    ∃ after, x = .ok after ∧ after.script = reactor.script := by
  cases x with
  | error reason => cases h
  | ok after =>
      obtain rfl := Except.ok.inj h
      exact ⟨after, rfl, (Reactor.script_seen _ after).symm⟩

theorem map_seen_eq_error {x : Throws (Reactor R)} {reason : Fault}
    (h : Handler.seen (fun _ => ()) <$> x = .error reason) : x = .error reason := by
  cases x with
  | error fault =>
      obtain rfl := Except.error.inj h
      rfl
  | ok after => cases h

theorem exists_map_seen_iff {x : Throws (Reactor R)} :
    (∃ reactor, Handler.seen (fun _ => ()) <$> x = .ok reactor) ↔ ∃ after, x = .ok after := by
  cases x with
  | error reason => simp
  | ok after => simp

section Calls

variable {inverse : Distance.Inverse F} {version : Version} {service : MagnitudeService F}

/-- A handler that is not left with a fault finishes and counts its call once. -/
theorem completes_of_reactor {rpc : Rpc F} {reactor : Reactor Unit}
    (h : rpc.reactor inverse version service = .ok reactor) :
    ∃ code, Completes rpc.route code reactor.script := by
  cases rpc with
  | computeNetworkMagnitudeFromAmplitudes clientMetadata request =>
      obtain ⟨after, hrun, hscript⟩ := map_seen_eq_ok h
      rw [← hscript]
      exact MagnitudeService.completes_of_run ⟨rfl, rfl, rfl, rfl⟩
        (fun hauthorized => MagnitudeService.networkReactor_left hauthorized hrun) hrun
  | computeStationMagnitudesFromAmplitudes clientMetadata request =>
      obtain ⟨after, hrun, hscript⟩ := map_seen_eq_ok h
      rw [← hscript]
      exact MagnitudeService.completes_of_run ⟨rfl, rfl, rfl, rfl⟩
        (fun hauthorized => MagnitudeService.stationReactor_left hauthorized hrun) hrun
  | getStationCorrections clientMetadata request =>
      obtain ⟨after, hrun, hscript⟩ := map_seen_eq_ok h
      rw [← hscript]
      exact MagnitudeService.completes_of_run ⟨rfl, rfl, rfl, rfl⟩
        (fun hauthorized => MagnitudeService.correctionsReactor_left hauthorized hrun) hrun

variable {distance : Distance F} {set : StationsSet F}
  (hwellFormed : service.mCalculator.WellFormed distance set)

include hwellFormed

/-- The constructor of the reactor returns exactly for the calls that are safe. -/
theorem exists_reactor_iff (rpc : Rpc F) :
    (∃ reactor, rpc.reactor inverse version service = .ok reactor) ↔
      rpc.IsSafe inverse service distance set := by
  cases rpc with
  | computeNetworkMagnitudeFromAmplitudes clientMetadata request =>
      refine exists_map_seen_iff.trans ?_
      by_cases hauthorized : service.Authorizes clientMetadata
      · rw [MagnitudeService.exists_networkReactor_iff hwellFormed hauthorized]
        exact ⟨fun h _ => h, fun h => h hauthorized⟩
      · exact iff_of_true
          ⟨_, MagnitudeService.run_checkClient_of_not_authorized hauthorized _ _⟩
          fun h => absurd h hauthorized
  | computeStationMagnitudesFromAmplitudes clientMetadata request =>
      refine exists_map_seen_iff.trans ?_
      by_cases hauthorized : service.Authorizes clientMetadata
      · rw [MagnitudeService.exists_stationReactor_iff hwellFormed hauthorized]
        exact ⟨fun h _ => h, fun h => h hauthorized⟩
      · exact iff_of_true
          ⟨_, MagnitudeService.run_checkClient_of_not_authorized hauthorized _ _⟩
          fun h => absurd h hauthorized
  | getStationCorrections clientMetadata request =>
      refine exists_map_seen_iff.trans (iff_of_true ?_ trivial)
      by_cases hauthorized : service.Authorizes clientMetadata
      · exact MagnitudeService.exists_correctionsReactor hwellFormed hauthorized request
      · exact ⟨_, MagnitudeService.run_checkClient_of_not_authorized hauthorized _ _⟩

theorem completes_of_isSafe {rpc : Rpc F} (h : rpc.IsSafe inverse service distance set) :
    ∃ code, Completes rpc.route code (rpc.script inverse version service) := by
  obtain ⟨reactor, hreactor⟩ := (exists_reactor_iff hwellFormed rpc).mpr h
  unfold script
  rw [hreactor]
  exact completes_of_reactor hreactor

theorem script_of_not_isSafe {rpc : Rpc F} (h : ¬ rpc.IsSafe inverse service distance set) :
    rpc.script inverse version service = [.terminate] := by
  unfold script
  cases hreactor : rpc.reactor inverse version service with
  | ok reactor => exact absurd ((exists_reactor_iff hwellFormed rpc).mp ⟨reactor, hreactor⟩) h
  | error reason => rfl

/-- A fault that leaves a handler is no exception. -/
theorem not_isException_of_reactor {rpc : Rpc F} {reason : Fault}
    (h : rpc.reactor inverse version service = .error reason) : ¬ reason.IsException := by
  cases rpc with
  | computeNetworkMagnitudeFromAmplitudes clientMetadata request =>
      have hrun := map_seen_eq_error h
      by_cases hauthorized : service.Authorizes clientMetadata
      · exact MagnitudeService.not_isException_of_networkReactor hauthorized hrun
      · cases (MagnitudeService.run_checkClient_of_not_authorized hauthorized _ _).symm.trans hrun
  | computeStationMagnitudesFromAmplitudes clientMetadata request =>
      have hrun := map_seen_eq_error h
      by_cases hauthorized : service.Authorizes clientMetadata
      · exact MagnitudeService.not_isException_of_stationReactor hauthorized hrun
      · cases (MagnitudeService.run_checkClient_of_not_authorized hauthorized _ _).symm.trans hrun
  | getStationCorrections clientMetadata request =>
      obtain ⟨reactor, hreactor⟩ :=
        (exists_reactor_iff hwellFormed (.getStationCorrections clientMetadata request)).mpr trivial
      cases hreactor.symm.trans h

end Calls

end Rpc

end Grpc
end ULocalMagnitude
