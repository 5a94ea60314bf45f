import Wangle.Keyed.Insertions
import Wangle.Numeral.Endian
import Wangle.Numeral.Hex
import Wangle.Ssl.TLSTicketKeySeeds
import Wangle.Transition.Run

/-!
# `TLSTicketKeyManager`

SHA-256 is any function to 32 bytes.
-/

namespace Wangle.Ssl
open Wangle.Numeral Wangle.Keyed

abbrev Bytes := List UInt8

abbrev Digest := { bytes : Bytes // bytes.length = 32 }

abbrev kTLSTicketKeyNameLen := 4
abbrev kTLSTicketKeySaltLen := 12

abbrev Salt := { bytes : Bytes // bytes.length = kTLSTicketKeySaltLen }

inductive TLSTicketSeedType
  | old
  | current
  | new
  deriving DecidableEq, Repr

structure TLSTicketSeed where
  seed : Bytes
  type : TLSTicketSeedType
  seedName : Digest
  deriving DecidableEq

structure TLSTicketKeySource where
  hashCount : Nat
  keyName : Bytes
  type : TLSTicketSeedType
  keySource : Digest
  deriving DecidableEq

inductive SSLStatsCall
  | recordTLSTicket (ticketNew ticketHit : Bool)
  | recordTLSTicketRotation (valid : Bool)
  deriving DecidableEq, Repr

structure TLSTicketKeyManager where
  ticketSeeds : List TLSTicketSeed := []
  ticketKeys : Map Bytes TLSTicketKeySource := ∅
  activeKeys : List TLSTicketKeySource := []
  -- what `stats_` has been told, if it is not null
  stats : Option (List SSLStatsCall)
  -- the ticket key callback of the SSL context is the manager's
  ticketKeyCb : Bool := false

structure Ticket where
  keyName : Bytes
  iv : Bytes
  deriving DecidableEq, Repr

structure Contexts where
  hmacKey : Bytes
  aesKey : Bytes
  iv : Bytes
  deriving DecidableEq, Repr

structure Random where
  rand32 : Nat
  salt : Salt
  iv : Bytes

structure Processed where
  result : Int
  ticket : Ticket
  contexts : Option Contexts
  manager : TLSTicketKeyManager

namespace TLSTicketKeyManager
variable (sha256 : Bytes → Digest)

def record (call : SSLStatsCall) (m : TLSTicketKeyManager) : TLSTicketKeyManager :=
  { m with stats := m.stats.map (· ++ [call]) }

/-- The source asserts `n > 0`. -/
def hashNth (input : Bytes) (n : Nat) : Digest :=
  (fun output : Digest => sha256 output)^[n - 1] (sha256 input)

def makeKeyName (seed : TLSTicketSeed) (n : Nat) : Bytes :=
  (sha256 (seed.seedName ++ littleEndian 4 n)).1.take kTLSTicketKeyNameLen

def makeUniqueKeys (parentKey salt : Bytes) : Digest := sha256 (parentKey ++ salt)

def newKey (seed : TLSTicketSeed) (hashCount : Nat) (prevKey : Option TLSTicketKeySource) : TLSTicketKeySource where
  hashCount := hashCount
  keyName := makeKeyName sha256 seed hashCount
  type := seed.type
  keySource := match prevKey with
    | some prevKey => hashNth sha256 prevKey.keySource 1
    | none => hashNth sha256 seed.seed hashCount

def insertNewKey (seed : TLSTicketSeed) (hashCount : Nat) (prevKey : Option TLSTicketKeySource)
    (m : TLSTicketKeyManager) : TLSTicketKeyManager :=
  let newKey := newKey sha256 seed hashCount prevKey
  let key := (m.ticketKeys.lookup newKey.keyName).getD newKey
  { m with
    ticketKeys := emplace newKey.keyName newKey m.ticketKeys
    activeKeys := if key.type = .current then m.activeKeys ++ [key] else m.activeKeys }

def insertSeed (seedInput : String) (type : TLSTicketSeedType) (m : TLSTicketKeyManager) :
    Option TLSTicketSeed × TLSTicketKeyManager :=
  match unhexlify seedInput with
  | none => (none, m)
  | some seedOutput =>
      let seed := { seed := seedOutput, type := type, seedName := sha256 seedOutput }
      (some seed, { m with ticketSeeds := m.ticketSeeds ++ [seed] })

def insertSeeds (type : TLSTicketSeedType) : List String → TLSTicketKeyManager → TLSTicketKeyManager
  | [], m => m
  | seedInput :: seedList, m => match insertSeed sha256 seedInput type m with
      | (none, m) => insertSeeds type seedList m
      | (some seed, m) => insertSeeds type seedList (insertNewKey sha256 seed 1 none m)

def seedsOf (type : TLSTicketSeedType) (m : TLSTicketKeyManager) : List String :=
  (m.ticketSeeds.filter fun seed => seed.type = type).map fun seed => hexlify seed.seed

def getTLSTicketKeySeeds (m : TLSTicketKeyManager) : TLSTicketKeySeeds where
  oldSeeds := m.seedsOf .old
  currentSeeds := m.seedsOf .current
  newSeeds := m.seedsOf .new

def recordTlsTicketRotation (next : TLSTicketKeySeeds) (m : TLSTicketKeyManager) : TLSTicketKeyManager :=
  m.record (.recordTLSTicketRotation (m.getTLSTicketKeySeeds.isValidRotation next))

def setTLSTicketKeySeeds (seeds : TLSTicketKeySeeds) (m : TLSTicketKeyManager) : Bool × TLSTicketKeyManager :=
  let m := m.recordTlsTicketRotation seeds
  let m := { m with activeKeys := [], ticketKeys := ∅, ticketSeeds := [] }
  let m := insertSeeds sha256 .old seeds.oldSeeds m
  let m := insertSeeds sha256 .current seeds.currentSeeds m
  let m := insertSeeds sha256 .new seeds.newSeeds m
  if m.ticketKeys.entries.isEmpty || m.activeKeys.isEmpty then (false, { m with ticketKeyCb := false })
  else (true, { m with ticketKeyCb := true })

def findEncryptionKey (rand32 : Nat) (m : TLSTicketKeyManager) : Option TLSTicketKeySource :=
  let numKeys := m.activeKeys.length
  if numKeys > 0 then m.activeKeys[if numKeys = 1 then 0 else rand32 % numKeys]? else none

def findDecryptionKey (keyName : Bytes) (m : TLSTicketKeyManager) : Option TLSTicketKeySource :=
  m.ticketKeys.lookup (keyName.take kTLSTicketKeyNameLen)

def contexts (key : TLSTicketKeySource) (salt iv : Bytes) : Contexts :=
  let output := makeUniqueKeys sha256 key.keySource salt
  { hmacKey := output.1.take 16, aesKey := output.1.drop 16, iv := iv }

def processTicket (m : TLSTicketKeyManager) (ticket : Ticket) (random : Random) (encrypt : Bool) : Processed :=
  if encrypt then
    match m.findEncryptionKey random.rand32 with
    | none => { result := -1, ticket := ticket, contexts := none, manager := m }
    | some key =>
        { result := 1
          ticket := { keyName := key.keyName ++ random.salt, iv := random.iv }
          contexts := some (contexts sha256 key random.salt random.iv)
          manager := m.record (.recordTLSTicket true true) }
  else
    match m.findDecryptionKey ticket.keyName with
    | none => { result := 0, ticket := ticket, contexts := none, manager := m.record (.recordTLSTicket false false) }
    | some key =>
        let salt := (ticket.keyName.drop kTLSTicketKeyNameLen).take kTLSTicketKeySaltLen
        { result := 1
          ticket := ticket
          contexts := some (contexts sha256 key salt ticket.iv)
          manager := m.record (.recordTLSTicket false true) }

/-- The SSL library asks the manager only if its callback is set. -/
def callback (m : TLSTicketKeyManager) (ticket : Ticket) (random : Random) (encrypt : Bool) : Option Processed :=
  if m.ticketKeyCb then some (m.processTicket sha256 ticket random encrypt) else none

inductive Op
  | setTLSTicketKeySeeds (seeds : TLSTicketKeySeeds)
  | processTicket (ticket : Ticket) (random : Random) (encrypt : Bool)

def step (m : TLSTicketKeyManager) : Op → Except Empty TLSTicketKeyManager
  | .setTLSTicketKeySeeds seeds => .ok (setTLSTicketKeySeeds sha256 seeds m).2
  | .processTicket ticket random encrypt => .ok (m.processTicket sha256 ticket random encrypt).manager

abbrev run (m : TLSTicketKeyManager) (ops : List Op) : Except Empty TLSTicketKeyManager :=
  Transition.run (step sha256) m ops

end TLSTicketKeyManager
end Wangle.Ssl
