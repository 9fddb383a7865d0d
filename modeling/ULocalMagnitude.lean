import ULocalMagnitude.Cxx.Objects
import ULocalMagnitude.Cxx.BinarySearch
import ULocalMagnitude.Batch
import ULocalMagnitude.Api.Messages
import ULocalMagnitude.Magnitude.StreamIdentifier
import ULocalMagnitude.Corrections.StationIdentifier
import ULocalMagnitude.Corrections.Station
import ULocalMagnitude.Cxx.Maps
import ULocalMagnitude.Corrections.DistanceOptions
import ULocalMagnitude.Corrections.StationsSet
import ULocalMagnitude.Corrections.Locations
import ULocalMagnitude.Corrections.Distance
import ULocalMagnitude.Magnitude.Amplitude
import ULocalMagnitude.Magnitude.Observation
import ULocalMagnitude.Magnitude.StationMagnitude
import ULocalMagnitude.Magnitude.StationMagnitudeCalculator
import ULocalMagnitude.Average
import ULocalMagnitude.Magnitude.NetworkMagnitude
import ULocalMagnitude.Magnitude.NetworkMagnitudeCalculatorOptions
import ULocalMagnitude.Magnitude.NetworkMagnitudeCalculator
import ULocalMagnitude.Magnitude.NetworkAverage
import ULocalMagnitude.Grpc.MagnitudeService
import ULocalMagnitude.Grpc.Responses
import ULocalMagnitude.Rationals
import ULocalMagnitude.Properties.Accounting
import ULocalMagnitude.Properties.Specification
import ULocalMagnitude.Properties.Termination
import ULocalMagnitude.Properties.StationNames
import ULocalMagnitude.Properties.ErrorCodes
import ULocalMagnitude.Properties.Status
import ULocalMagnitude.Magnitude.SwappedAmplitudes
import ULocalMagnitude.Properties.Order
import ULocalMagnitude.Properties.Rejections
import ULocalMagnitude.Properties.Spelling
import ULocalMagnitude.Properties.Endpoints
import ULocalMagnitude.Corrections.Table
import ULocalMagnitude.Corrections.Lookup
import ULocalMagnitude.Properties.Tables
import ULocalMagnitude.Magnitude.EpicentralDepths
import ULocalMagnitude.Reals
import ULocalMagnitude.Properties.Datum
import ULocalMagnitude.Magnitude.ScaledAmplitudes
import ULocalMagnitude.Properties.Scaling
import ULocalMagnitude.Grpc.StationCorrections
import ULocalMagnitude.Properties.AdvertisedCorrections
import ULocalMagnitude.Configuration.PropertyTree
import ULocalMagnitude.Configuration.SecretFile
import ULocalMagnitude.Grpc.ServerOptions
import ULocalMagnitude.Grpc.Server
import ULocalMagnitude.Grpc.Exits
import ULocalMagnitude.Properties.AccessToken
import ULocalMagnitude.Properties.Restrictions
import ULocalMagnitude.Process
import ULocalMagnitude.Properties.Shutdown
import ULocalMagnitude.Interleaving
import ULocalMagnitude.Metrics.Singleton
import ULocalMagnitude.Grpc.Calls
import ULocalMagnitude.Properties.Metrics
import ULocalMagnitude.Properties.Malformed
import ULocalMagnitude.Corrections.Stations
import ULocalMagnitude.Properties.Sensors
import ULocalMagnitude.Properties.Wire
import ULocalMagnitude.Properties.Views
import ULocalMagnitude.Cxx.ByteOrder
import ULocalMagnitude.Cxx.Rounding
import ULocalMagnitude.WaveformProcessing.Packet
import ULocalMagnitude.Properties.Samples
import ULocalMagnitude.Properties.PacketTimes
import ULocalMagnitude.Cxx.Numerals
import ULocalMagnitude.Cxx.Tokens
import ULocalMagnitude.Configuration.Items
import ULocalMagnitude.Corrections.DistanceFile
import ULocalMagnitude.Properties.DistanceTables
import ULocalMagnitude.Corrections.StationsFile
import ULocalMagnitude.Properties.StationFiles
import ULocalMagnitude.Grpc.ServerFile
import ULocalMagnitude.Configuration.OTelOptions
import ULocalMagnitude.ProgramOptions
import ULocalMagnitude.Properties.Defaults
import ULocalMagnitude.Cxx.Integers
import ULocalMagnitude.WaveformProcessing.EndTime
import ULocalMagnitude.Properties.EndTimes
import ULocalMagnitude.Cxx.Moves
import ULocalMagnitude.Properties.CompositeSetters
import ULocalMagnitude.Cxx.Programs
import ULocalMagnitude.Logger
import ULocalMagnitude.Metrics.Exporter
import ULocalMagnitude.Main
import ULocalMagnitude.Properties.Lifecycle
import ULocalMagnitude.Grpc.Alike
import ULocalMagnitude.Properties.Configurations
import ULocalMagnitude.Properties.Counters
import ULocalMagnitude.Pooling
import ULocalMagnitude.Properties.Pooling
import ULocalMagnitude.Slopes
import ULocalMagnitude.Nearby
import ULocalMagnitude.Corrections.NearbyTables
import ULocalMagnitude.Magnitude.NearbyMagnitudes
import ULocalMagnitude.Properties.Stability
import ULocalMagnitude.Richter
import ULocalMagnitude.Simulation
import ULocalMagnitude.Corrections.Attenuation
import ULocalMagnitude.Magnitude.Readings
import ULocalMagnitude.Grpc.NetworkAnswers
import ULocalMagnitude.Properties.Networks
import ULocalMagnitude.Grpc.Batches
import ULocalMagnitude.Properties.Batches
import ULocalMagnitude.Cxx.Settings
import ULocalMagnitude.Grpc.MagnitudeServiceOptions
import ULocalMagnitude.Properties.ServiceOptions
import ULocalMagnitude.Cxx.Ownership
import ULocalMagnitude.Cxx.ClassInvariants
import ULocalMagnitude.Classes
import ULocalMagnitude.Properties.Objects
import ULocalMagnitude.Corrections.Coordinates
import ULocalMagnitude.Properties.Coordinates
