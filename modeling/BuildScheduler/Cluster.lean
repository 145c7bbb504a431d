import BuildScheduler.Error
import BuildScheduler.Pod

/-!
# Clusters

A cluster creates and deletes pods, and answers after some time. The recording cluster keeps
what it was asked; outages planned for it make requests fail before they have any effect.
Times are nanoseconds of the clock.
-/

namespace BuildScheduler

/-- Requests that are to fail: one entry a request, none for a request that goes through. -/
structure Outages (ε : Type) where
  planned : List (Option ε) := []
deriving DecidableEq

namespace Outages

def none : Outages ε := {}

/-- The failure of the next request, if one is planned. -/
def next (outages : Outages ε) : Option ε × Outages ε :=
  match outages.planned with
  | [] => (.none, outages)
  | failure :: rest => (failure, ⟨rest⟩)

@[simp] theorem next_none : (none : Outages ε).next = (.none, none) := rfl

end Outages

/-- The answer to a request, and how long it took. -/
structure Reply where
  result : Result Unit
  elapsed : Nat := 0

/-- What a cluster of state `κ` does at a time. -/
structure Cluster (κ : Type) where
  name : String
  create : Nat → PodSpec → κ → Reply × κ
  delete : Nat → String → κ → Reply × κ

structure Deletion where
  name : String
  time : Nat
  succeeded : Bool
deriving DecidableEq, Repr

structure Subscription where
  selector : String
  time : Nat
deriving DecidableEq, Repr

/-- Requests in the order in which they came. -/
structure Recorder where
  created : List PodSpec := []
  deletions : List Deletion := []
  subscriptions : List Subscription := []
  createOutages : Outages Error := {}
  deleteOutages : Outages Error := {}

namespace Recorder

def create (spec : PodSpec) (recorder : Recorder) : Result Unit × Recorder :=
  match recorder.createOutages.next with
  | (some error, outages) => (.error error, { recorder with createOutages := outages })
  | (none, outages) =>
      (.ok (), { recorder with created := recorder.created ++ [spec], createOutages := outages })

def delete (time : Nat) (name : String) (recorder : Recorder) : Result Unit × Recorder :=
  let (failure, outages) := recorder.deleteOutages.next
  let recorder := { recorder with
    deletions := recorder.deletions ++ [⟨name, time, failure.isNone⟩]
    deleteOutages := outages }
  match failure with
  | some error => (.error error, recorder)
  | none => (.ok (), recorder)

def subscribe (time : Nat) (selector : String) (recorder : Recorder) : Recorder :=
  { recorder with subscriptions := recorder.subscriptions ++ [⟨selector, time⟩] }

/-- The recording cluster, which answers at once. -/
def cluster : Cluster Recorder where
  name := "scripted"
  create _ spec recorder :=
    let (result, recorder) := recorder.create spec
    ({ result }, recorder)
  delete time name recorder :=
    let (result, recorder) := recorder.delete time name
    ({ result }, recorder)

end Recorder

end BuildScheduler
