import Dish.Wire.Lemmas.RoundTrip
import Dish.Http.Exchange
import Dish.SatelliteClient.Lemmas.Nonce
import Dish.SatelliteClient.Lemmas.Replay
import Dish.Store.Trust
import Dish.Connection.Indices
import Dish.Manager.Lemmas.Converge
import Dish.Manager.Lemmas.Negotiated
import Dish.Manager.Lemmas.Polls
import Dish.Satellite.Lemmas.Current
import Dish.Manager.Lemmas.Pacing
import Dish.Manager.Lemmas.Forgotten
import Dish.Manager.Lemmas.Pinned
import Dish.Manager.Lemmas.Keys
import Dish.Hub.Lemmas
import Dish.Router.Wired
import Dish.Update.Lemmas.Stage
import Dish.Update.Lemmas.Transfer
import Dish.Update.Lemmas.Armed
import Dish.Update.Lemmas.Sweep
import Dish.Update.Lemmas.Crash
import Dish.Update.Lemmas.Attempts
import Dish.Update.Lemmas.Skipped
import Dish.Update.Manifest
import Dish.Usb.Holds
import Dish.Usb.HidScale
import Dish.Usb.HidCaps
import Dish.Usb.Lemmas.Latch
import Dish.Reducer.Twins
import Dish.Reducer.BindingPresence
import Dish.Audio.FrameWindower
import Dish.Audio.Lemmas.Restart
import Dish.Audio.Lemmas.Matched
import Dish.Slots.Lemmas.Muted
import Dish.Slots.Lemmas.OptIn
import Dish.Moonlight.Launch
import Dish.Moonlight.Control
import Dish.Moonlight.PairingSecret
import Dish.Moonlight.Lemmas.Reattached
import Dish.Moonlight.Lemmas.Mixed
import Dish.Moonlight.Lemmas.Subscribed
import Dish.Moonlight.Lemmas.Atomic
import Dish.Input.TouchGate
import Dish.Input.Routing
import Dish.Moonlight.Touch
