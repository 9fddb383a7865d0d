import Mathlib.Data.List.AList
import ULocalMagnitude.Grpc.Reactor

/-!
# The metrics

`metrics/singleton.cpp`: four maps from routes to counts.  Every function takes the mutex
for as long as it looks at a map, so each of them is one step for the others.
-/

namespace ULocalMagnitude
namespace Metrics

open Grpc (Counter)

/-- `std::map<std::string, int64_t>` from the names of routes -/
abbrev CounterMap := AList fun _ : String => Int

/-- `Metrics::Singleton` -/
structure Singleton where
  mServerErrorCounterMap : CounterMap := ∅
  mClientErrorCounterMap : CounterMap := ∅
  mUnauthenticatedCounterMap : CounterMap := ∅
  mSuccessCounterMap : CounterMap := ∅

/-- What each of the four functions does to its map. -/
def incrementCounter (route : String) (map : CounterMap) : CounterMap :=
  if route = "" then map
  else
    match map.lookup route with
    | some count => map.insert route (count + 1)
    | none => map.insert route 1

/-- The count for a route; one that is not in the map has not been counted. -/
def countIn (route : String) (map : CounterMap) : Int := (map.lookup route).getD 0

/-- An increment adds one to the count of its route. -/
theorem countIn_incrementCounter {route : String} (hroute : route ≠ "") (route' : String)
    (map : CounterMap) :
    countIn route (incrementCounter route' map) =
      countIn route map + if route' = route then 1 else 0 := by
  unfold incrementCounter countIn
  by_cases hsame : route' = route
  · subst hsame
    rw [if_neg hroute, if_pos rfl]
    cases hlookup : map.lookup route' with
    | some count => simp
    | none => simp
  · rw [if_neg hsame, Int.add_zero]
    by_cases hempty : route' = ""
    · rw [if_pos hempty]
    · rw [if_neg hempty]
      cases map.lookup route' with
      | some count => simp [AList.lookup_insert_ne (Ne.symm hsame)]
      | none => simp [AList.lookup_insert_ne (Ne.symm hsame)]

namespace Singleton

/-- Success counts -/
def incrementSuccessCounter (route : String) (singleton : Singleton) : Singleton :=
  { singleton with mSuccessCounterMap := incrementCounter route singleton.mSuccessCounterMap }

def incrementUnauthenticatedCounter (route : String) (singleton : Singleton) : Singleton :=
  { singleton with
    mUnauthenticatedCounterMap := incrementCounter route singleton.mUnauthenticatedCounterMap }

/-- Server error -/
def incrementServerErrorCounter (route : String) (singleton : Singleton) : Singleton :=
  { singleton with
    mServerErrorCounterMap := incrementCounter route singleton.mServerErrorCounterMap }

/-- Client error -/
def incrementClientErrorCounter (route : String) (singleton : Singleton) : Singleton :=
  { singleton with
    mClientErrorCounterMap := incrementCounter route singleton.mClientErrorCounterMap }

def getSuccessCounters (singleton : Singleton) : CounterMap := singleton.mSuccessCounterMap

def getUnauthenticatedCounters (singleton : Singleton) : CounterMap :=
  singleton.mUnauthenticatedCounterMap

def getServerErrorCounters (singleton : Singleton) : CounterMap :=
  singleton.mServerErrorCounterMap

def getClientErrorCounters (singleton : Singleton) : CounterMap :=
  singleton.mClientErrorCounterMap

/-- The function that increments a counter. -/
def increment : Counter → String → Singleton → Singleton
  | .success => incrementSuccessCounter
  | .clientError => incrementClientErrorCounter
  | .serverError => incrementServerErrorCounter
  | .unauthenticated => incrementUnauthenticatedCounter

/-- The function that reads a counter. -/
def getCounters : Counter → Singleton → CounterMap
  | .success => getSuccessCounters
  | .clientError => getClientErrorCounters
  | .serverError => getServerErrorCounters
  | .unauthenticated => getUnauthenticatedCounters

/-- What a counter says for a route. -/
def count (counter : Counter) (route : String) (singleton : Singleton) : Int :=
  countIn route (singleton.getCounters counter)

@[simp] theorem count_empty (counter : Counter) (route : String) :
    ({} : Singleton).count counter route = 0 := by
  cases counter with
  | success => rfl
  | clientError => rfl
  | serverError => rfl
  | unauthenticated => rfl

/-- The increment of one counter for one route changes this count alone. -/
theorem count_increment {route : String} (hroute : route ≠ "") (counter counter' : Counter)
    (route' : String) (singleton : Singleton) :
    (singleton.increment counter' route').count counter route =
      singleton.count counter route +
        if counter' = counter ∧ route' = route then 1 else 0 := by
  have hsame : (singleton.increment counter route').getCounters counter =
      incrementCounter route' (singleton.getCounters counter) := by
    cases counter with
    | success => rfl
    | clientError => rfl
    | serverError => rfl
    | unauthenticated => rfl
  have hother : counter' ≠ counter →
      (singleton.increment counter' route').getCounters counter =
        singleton.getCounters counter := by
    intro hne
    cases counter' <;> cases counter <;> first | rfl | exact absurd rfl hne
  unfold count
  by_cases hcounter : counter' = counter
  · subst hcounter
    rw [hsame, countIn_incrementCounter hroute]
    simp
  · rw [hother hcounter]
    simp [hcounter]

end Singleton

end Metrics
end ULocalMagnitude
