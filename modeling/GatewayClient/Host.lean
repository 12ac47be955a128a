import GatewayClient.ClientId

/-!
# GatewayClient.Host

What the host of a client provides besides the network. A browser tab keeps a storage of its
own, knows the root URL of its page and can reload it; a headless host has none of these.
-/

namespace GatewayClient

/-- The items of a tab's storage. -/
abbrev TabStorage := List (String × String)

/-- Sets an item of a storage. -/
def TabStorage.setItem (storage : TabStorage) (key value : String) : TabStorage :=
  (key, value) :: storage.filter (fun item => item.1 != key)

/-- A host: its tab storage and its root URL, where it has them, and whether it can reload the
page. -/
structure Host where
  storage : Option TabStorage
  rootUrl : Option String
  reloads : Bool
deriving DecidableEq

/-- The host without anything. -/
def Host.headless : Host := ⟨none, none, false⟩

/-- A tab id as it was found, and whether it had to be minted. -/
structure ResolvedTab where
  tab : TabId
  minted : Bool
deriving DecidableEq

/-- Finds the tab id of a client. In a tab storage it is the one that is stored, or else a new
one that is stored from now on; without a storage it is the client id. -/
def Host.resolveTab (host : Host) (id : ClientId) (moment : Moment) : Host × ResolvedTab :=
  match host.storage with
  | none => (host, ⟨TabId.ofClient id, false⟩)
  | some storage =>
    match storage.lookup (TabId.storageKey id) with
    | some stored => (host, ⟨⟨stored⟩, false⟩)
    | none =>
      let tab := TabId.mint id moment
      ({ host with storage := some (storage.setItem (TabId.storageKey id) tab.name) },
        ⟨tab, true⟩)

end GatewayClient
