import BroadView.Bst.App

namespace BroadView.Ovsdb

open BroadView.Bst

structure BVIEW_BST_OVSDB_BID_PARAMS where
  realm_name : String
  counter_name : String
  is_indexed : Bool
  is_double_indexed : Bool
  deriving DecidableEq, Repr

-- The entry of a counter stands at the position of its counter id.
def bid_tab_params : List BVIEW_BST_OVSDB_BID_PARAMS :=
  [⟨"device", "data", false, false⟩,
    ⟨"egress-service-pool", "um-share-buffer-count", true, false⟩,
    ⟨"egress-service-pool", "mc-share-buffer-count", true, false⟩,
    ⟨"ingress-service-pool", "um-share-buffer-count", true, false⟩,
    ⟨"ingress-port-service-pool", "um-share-buffer-count", true, true⟩,
    ⟨"ingress-port-priority-group", "um-share-buffer-count", true, true⟩,
    ⟨"ingress-port-priority-group", "um-headroom-buffer-count", true, true⟩,
    ⟨"egress-uc-queue", "uc-buffer-count", true, false⟩,
    ⟨"egress-mc-queue", "mc-buffer-count", true, false⟩,
    ⟨"egress-port-service-pool", "uc-share-buffer-count", true, true⟩,
    ⟨"egress-port-service-pool", "um-share-buffer-count", true, true⟩,
    ⟨"egress-rqe-queue", "rqe-buffer-count", true, false⟩,
    ⟨"egress-rqe-queue", "rqe-queue-count", true, false⟩,
    ⟨"egress-uc-queue-group", "uc-buffer-count", true, false⟩,
    ⟨"egress-cpu-queue", "cpu-buffer-count", true, false⟩]

-- The trigger information the plugin hands to the callback of the application.
def bst_ovsdb_trigger_callback (bid : Nat) (port queue : Int32) : Option BVIEW_BST_TRIGGER_INFO :=
  (bid_tab_params[bid]?).map fun params =>
    { realm := params.realm_name, counter := params.counter_name, port, queue }

end BroadView.Ovsdb
