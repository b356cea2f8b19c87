import BroadView.Transition
import BroadView.Bst.App
import BroadView.Bst.Calls
import BroadView.Bst.Trigger
import BroadView.Bst.Config
import BroadView.Bst.Report
import BroadView.Bst.Main
import BroadView.Bst.Limiter.Window
import BroadView.Bst.Disable
import BroadView.Bst.Records
import BroadView.Bst.Response
import BroadView.Json.Writer
import BroadView.Bst.Encoder.WellFormed
import BroadView.Bst.Collector
import BroadView.Rest.Theorems
import BroadView.Bst.Buffers
import BroadView.Ovsdb.Bufmon.Triggers
import BroadView.Ovsdb.Bufmon.Mirror.Theorems
import BroadView.Ovsdb.Threshold.Theorems
import BroadView.Ovsdb.Config.Decode
import BroadView.Ovsdb.Rpc.Theorems
import BroadView.Agent.Theorems
import BroadView.Deployment.Mirror
import BroadView.Deployment.Tracking
import BroadView.RegHb.Theorems
import BroadView.Bst.Feature.Theorems
import BroadView.Bst.Clear
import BroadView.Bst.Thresholds.Cells
import BroadView.Bst.Feature.RoundTrip
import BroadView.Bst.Memory.Theorems
import BroadView.ModuleMgr.Theorems
import BroadView.Redirector.Theorems
import BroadView.Rest.Client.Theorems
import BroadView.Bst.Encoder.Maxima
import BroadView.Ovsdb.Collect.Theorems
import BroadView.Rest.Http.Dispatch
import BroadView.CJson.Meaning
import BroadView.CJson.Read
import BroadView.Bst.Northbound
import BroadView.RegHb.Northbound
import BroadView.Rest.Serve
import BroadView.Rest.Envelope.Theorems
import BroadView.Rest.Serve.Theorems
import BroadView.Rest.Delivery
import BroadView.Rest.Delivery.Theorems
import BroadView.Rest.Serve.Requests
import BroadView.Bst.Feature.Client
import BroadView.Rest.Serve.Text
import BroadView.Bst.Feature.Ranges
import BroadView.Rest.Serve.Asic
import BroadView.Rest.Serve.Within
import BroadView.Bst.Encoder.Reader
import BroadView.Printf.Prints
import BroadView.RegHb.Encoder
import BroadView.RegHb.App
import BroadView.RegHb.App.Configured
