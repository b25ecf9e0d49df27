import ClimateStation.Launch.Session
import ClimateStation.Light.Strip
import ClimateStation.Main
import ClimateStation.Proofs.Log.Slots
import ClimateStation.Proofs.Storage.Access
import ClimateStation.Proofs.Log.Operation
import ClimateStation.Proofs.Log.Queue
import ClimateStation.Proofs.Log.Crash
import ClimateStation.Proofs.Command.Sentence
import ClimateStation.Proofs.Command.Encoding
import ClimateStation.Proofs.Command.Words
import ClimateStation.Proofs.Command.Language
import ClimateStation.Proofs.Binary.Codec
import ClimateStation.Proofs.Network.Settings
import ClimateStation.Proofs.Alarm.Gates
import ClimateStation.Proofs.Station.Held
import ClimateStation.Proofs.Station.Restart
import ClimateStation.Proofs.Command.Values
import ClimateStation.Proofs.Command.Cut
import ClimateStation.Proofs.Datagram.Reply
import ClimateStation.Proofs.Station.Channels
import ClimateStation.Proofs.Terminal.Transcript
import ClimateStation.Proofs.Station.Console
import ClimateStation.Proofs.Light.Bank
import ClimateStation.Proofs.Storage.Confinement
import ClimateStation.Proofs.Station.Alarms
import ClimateStation.Proofs.Station.Footprint
import ClimateStation.Proofs.Station.Monitoring
import ClimateStation.Proofs.Station.Panel
import ClimateStation.Proofs.Timer
import ClimateStation.Proofs.Station.Mail
import ClimateStation.Proofs.Station.Cadence
import ClimateStation.Proofs.Station.Logging
import ClimateStation.Proofs.Command.Contributions
import ClimateStation.Proofs.Command.Lenient
import ClimateStation.Proofs.Command.Phrase
import ClimateStation.Proofs.Terminal.ControlSequence
import ClimateStation.Proofs.Terminal.Capture
import ClimateStation.Proofs.Log.Opening
import ClimateStation.Proofs.Command.Forward
import ClimateStation.Proofs.Command.Refusal
import ClimateStation.Proofs.Light.Blinking
import ClimateStation.Proofs.Network.Region
import ClimateStation.Proofs.Station.Replies
import ClimateStation.Proofs.Light.Coherence
import ClimateStation.Proofs.Datagram.Writing
import ClimateStation.Proofs.Clock.Update
import ClimateStation.Proofs.Config.File
import ClimateStation.Proofs.Config.Packed
import ClimateStation.Proofs.Config.Partial
import ClimateStation.Proofs.Storage.Image
import ClimateStation.Proofs.Storage.Windows
import ClimateStation.Proofs.Terminal.Recall
import ClimateStation.Proofs.Terminal.Display
import ClimateStation.Proofs.Station.Startup
import ClimateStation.Proofs.Log.Arrangement
import ClimateStation.Proofs.Alarm.Classification
import ClimateStation.Proofs.Command.Numeral
