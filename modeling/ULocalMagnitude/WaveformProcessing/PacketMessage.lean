import ULocalMagnitude.WaveformProcessing.Packet

/-!
# Packets from messages

The protobuf messages of `uLocalMagnitudeServiceAPI/waveformProcessing/v1` and the
constructor of a packet from one.  It checks that the fields are there and gives them to
the setters of a new packet, the data to the one for its type.
-/

namespace ULocalMagnitude
namespace Api

open Cxx

/-- `google.protobuf.Timestamp` -/
structure Timestamp where
  seconds : Int64
  nanos : Int32
deriving DecidableEq

/-- `enum DataType` -/
inductive DataType where
  | unspecified
  | integer32
  | float
  | double
  | integer64
  /-- A number that is none of the above. -/
  | unrecognized (number : Int)
deriving DecidableEq

/-- `message Packet` -/
structure Packet (F : Type) where
  startTime : Option Timestamp
  samplingRate : Option (Double F)
  dataType : Option DataType
  numberOfSamples : Option UInt32
  data : Option Bytes
deriving DecidableEq

end Api

namespace WaveformProcessing

open Cxx

variable {F : Type} [Arithmetic F]

namespace Packet

/-- The chain of comparisons with the data types. -/
def sampleType : Api.DataType → Throws SampleType
  | .unspecified => .error (.invalidArgument "Data type not specified")
  | .integer32 => .ok .int32
  | .float => .ok .float
  | .double => .ok .double
  | .integer64 => .ok .int64
  | .unrecognized _ => .error (.invalidArgument "Unhandled data type")

/-- Construct from message; `TimeUtil::TimestampToNanoseconds` is a parameter. -/
def ofMessage (timestampToNanoseconds : Api.Timestamp → Int64) (native : Endian)
    (packet : Api.Packet F) : Throws (Packet F) := do
  let timestamp ← require packet.startTime (.invalidArgument "Start time not set")
  let samplingRate ← require packet.samplingRate (.invalidArgument "Sampling rate not set")
  let dataType ← require packet.dataType (.invalidArgument "Data type not set")
  let data ← require packet.data (.runtimeError "Data not set")
  let thisPacket : Packet F := {}
  let startTime := timestampToNanoseconds timestamp
  let thisPacket ← (setStartTime startTime.toInt).call thisPacket
  let thisPacket ← (setSamplingRate samplingRate).call thisPacket
  -- A number of samples that is not there reads as zero.
  let nSamples := packet.numberOfSamples.getD 0
  let type ← sampleType dataType
  (setData type native data nSamples).call thisPacket

/-- A message gives a packet when the setters take what it has. -/
theorem ofMessage_eq_ok {timestampToNanoseconds : Api.Timestamp → Int64} {native : Endian}
    {message : Api.Packet F} {packet : Packet F} :
    ofMessage timestampToNanoseconds native message = .ok packet ↔
      ∃ timestamp samplingRate dataType data type started sampled,
        message.startTime = some timestamp ∧ message.samplingRate = some samplingRate ∧
        message.dataType = some dataType ∧ message.data = some data ∧
        sampleType dataType = .ok type ∧
        (setStartTime (timestampToNanoseconds timestamp).toInt).call {} = .ok started ∧
        (setSamplingRate samplingRate).call started = .ok sampled ∧
        (setData type native data (message.numberOfSamples.getD 0)).call sampled =
          .ok packet := by
  unfold ofMessage
  simp only [bind_eq_ok, require_eq_ok]
  constructor
  · rintro ⟨timestamp, hstart, samplingRate, hrate, dataType, htype, data, hdata, started,
      hstarted, sampled, hsampled, type, hsample, hpacket⟩
    exact ⟨timestamp, samplingRate, dataType, data, type, started, sampled, hstart, hrate,
      htype, hdata, hsample, hstarted, hsampled, hpacket⟩
  · rintro ⟨timestamp, samplingRate, dataType, data, type, started, sampled, hstart, hrate,
      htype, hdata, hsample, hstarted, hsampled, hpacket⟩
    exact ⟨timestamp, hstart, samplingRate, hrate, dataType, htype, data, hdata, started,
      hstarted, sampled, hsampled, type, hsample, hpacket⟩

end Packet

end WaveformProcessing
end ULocalMagnitude
