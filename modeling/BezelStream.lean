import BezelStream.Main
import BezelStream.Radio.Host
import BezelStream.Proofs.Session.Invariant
import BezelStream.Proofs.Session.Run
import BezelStream.Proofs.Session.Cleanup
import BezelStream.Proofs.Session.Consumer
import BezelStream.Proofs.Session.Outcome
import BezelStream.Proofs.Session.Discipline
import BezelStream.Proofs.Interaction.Abreast
import BezelStream.Proofs.Session.Abreast
import BezelStream.Proofs.Payload.Flow
import BezelStream.Proofs.Payload.Control
import BezelStream.Proofs.Payload.Belt
import BezelStream.Proofs.Payload.Reading
import BezelStream.Proofs.Session.Frames
import BezelStream.Proofs.Session.Delivery
import BezelStream.Proofs.Interaction.Writing
import BezelStream.Proofs.Scan.Collecting
import BezelStream.Proofs.Radio.Connectable
import BezelStream.Proofs.Radio.Hearing
import BezelStream.Proofs.Radio.Scan
import BezelStream.Proofs.Radio.Stopping
import BezelStream.Proofs.Selection
import BezelStream.Proofs.Session.Written
import BezelStream.Proofs.Session.Yield
import BezelStream.Proofs.Streamer.Actions
import BezelStream.Proofs.Streamer.Stages
import BezelStream.Proofs.Streamer.Release
import BezelStream.Proofs.Interaction.Failing
import BezelStream.Proofs.Session.Failing
import BezelStream.Proofs.Radio.Failing
import BezelStream.Proofs.Streamer.Failing
import BezelStream.Proofs.Session.Conducting
import BezelStream.Proofs.Radio.Air
import BezelStream.Proofs.Radio.Relay
import BezelStream.Proofs.Radio.Watching
import BezelStream.Proofs.Radio.Holding
import BezelStream.Proofs.Radio.Serving
import BezelStream.Proofs.Radio.Searching
import BezelStream.Proofs.Streamer.Client
import BezelStream.Proofs.Gatt
import BezelStream.Proofs.Session.Choosing
import BezelStream.Proofs.Radio.Resolving
import BezelStream.Proofs.Yaml.Outcome
import BezelStream.Proofs.Yaml.Source
import BezelStream.Proofs.Yaml.Reading
import BezelStream.Proofs.Yaml.Lexing
import BezelStream.Proofs.Yaml.Parsing
import BezelStream.Proofs.Yaml.Drafting
import BezelStream.Proofs.Yaml.Stemming
import BezelStream.Proofs.Yaml.Merging
import BezelStream.Proofs.Yaml.Building
import BezelStream.Proofs.Config.Reading
import BezelStream.Proofs.Config.Schema
import BezelStream.Proofs.Config.Building
import BezelStream.Proofs.Config.Overlay
import BezelStream.Proofs.Config.Loading
import BezelStream.Proofs.Number.Rounding
import BezelStream.Proofs.Number.Range
import BezelStream.Proofs.Text.Blank
import BezelStream.Proofs.Text.Groups
import BezelStream.Proofs.Text.Lowercase
import BezelStream.Proofs.Text.Lines
import BezelStream.Proofs.Uuid
import BezelStream.Proofs.Uuid.Normalizing
import BezelStream.Proofs.Uuid.Matching
import BezelStream.Proofs.Config.Soundness
import BezelStream.Proofs.Config.Layers
import BezelStream.Proofs.Config.Ignoring
import BezelStream.Proofs.CommandLine.Configuring
import BezelStream.Proofs.Streamer.Requests
import BezelStream.Proofs.Gatt.Listing
import BezelStream.Proofs.Session.Locating
import BezelStream.Proofs.Session.Subscribing
import BezelStream.Proofs.Interaction.Dialogue
import BezelStream.Proofs.Scan.Adding
import BezelStream.Proofs.Session.Retrying
import BezelStream.Proofs.Selection.Asking
import BezelStream.Proofs.Config.Entries
import BezelStream.Proofs.Config.Untagged
import BezelStream.Proofs.Radio.Controllers
import BezelStream.Proofs.Radio.Adapters
import BezelStream.Proofs.Radio.Entries
