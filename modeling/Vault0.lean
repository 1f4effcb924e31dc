import Vault0.Errors
import Vault0.Keystore.Table
import Vault0.Keystore.Rows
import Vault0.Keystore.List
import Vault0.Keystore.Sign
import Vault0.Keystore.ReadBack
import Vault0.History.Types
import Vault0.History.Upsert
import Vault0.History.Items
import Vault0.History.Events
import Vault0.History.AddressMap
import Vault0.History.Sync
import Vault0.History.Cycles
import Vault0.History.Provenance
import Vault0.History.Watermark
import Vault0.History.Sessions
import Vault0.History.Lifecycle
import Vault0.Signer.Service
