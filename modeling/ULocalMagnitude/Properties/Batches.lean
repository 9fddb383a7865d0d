import ULocalMagnitude.Grpc.Batches

/-!
# Requests cut into batches

A client may send the measurements or the stations of a request in batches of any size.
`batches_are_answered_alike` puts the answer to the whole request together from the answers
to the batches, for any service and any client.

* With an answer to each batch that is a success, the answer to the request is one too, and
  its magnitudes or entries are those of the batches, in order.
* Otherwise the answer to the request has those of the batches in front of the first refused
  one and the status of that one; the number in the message about a malformed measurement
  counts the magnitudes in front.
* The process is gone with the request if and only if it is gone with a batch and all those in
  front of it are answered with success.
-/

namespace ULocalMagnitude
namespace Properties

open Cxx Grpc
open Corrections (Distance)
open Grpc.MagnitudeService (continueCorrections continueMagnitudes correctionsAnswer
  correctionsAnswer_append magnitudesAnswer magnitudesAnswer_append)

variable {R ι : Type}

/-- The answer to several batches, one behind the other, up to the first one that is no
success. -/
def answerBatches (answer : List ι → Throws (Reactor R))
    (continueBehind : R → Reactor R → Reactor R) : List (List ι) → Throws (Reactor R)
  | [] => answer []
  | batch :: rest => do
      let first ← answer batch
      if first.mSuccess then
        continueBehind first.response <$> answerBatches answer continueBehind rest
      else return first

/-- From two lists to any number of them. -/
theorem answer_flatten {answer : List ι → Throws (Reactor R)}
    {continueBehind : R → Reactor R → Reactor R}
    (happend : ∀ first second, answer (first ++ second) = do
      let reactor ← answer first
      if reactor.mSuccess then continueBehind reactor.response <$> answer second
      else return reactor) (batches : List (List ι)) :
    answer batches.flatten = answerBatches answer continueBehind batches := by
  induction batches with
  | nil => rfl
  | cons batch rest ih => rw [List.flatten_cons, happend, ih, answerBatches]

variable {F : Type} [Arithmetic F]

/-- A request is answered the way its batches are, one behind the other. -/
theorem batches_are_answered_alike (inverse : Distance.Inverse F) (version : Version)
    (service : MagnitudeService F) (clientMetadata : ClientMetadata) :
    (∀ (request : Api.StationMagnitudesFromAmplitudesRequest F)
        (batches : List (List (Api.StationAmplitudeMeasurement F))),
      magnitudesAnswer inverse version service clientMetadata request batches.flatten =
        answerBatches (magnitudesAnswer inverse version service clientMetadata request)
          continueMagnitudes batches) ∧
      ∀ (request : Api.StationCorrectionsRequest) (batches : List (List Api.StationIdentifier)),
        correctionsAnswer service clientMetadata request batches.flatten =
          answerBatches (correctionsAnswer service clientMetadata request)
            continueCorrections batches := by
  constructor
  · intro request batches
    exact answer_flatten
      (magnitudesAnswer_append inverse version service clientMetadata request) batches
  · intro request batches
    exact answer_flatten (correctionsAnswer_append service clientMetadata request) batches

end Properties
end ULocalMagnitude
