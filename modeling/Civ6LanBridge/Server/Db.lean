/-
`server/src/db.rs` and `server/migrations/0001_control_plane.sql`: the tables of rooms and peers with
their constraints, and the statements that write them. A statement that fails changes nothing.
-/
import Civ6LanBridge.Protocol.Ids

namespace Civ6LanBridge

open Std FinMap

/-- A reading of the database's clock, `NOW()`. -/
abbrev Timestamp := Nat

structure RoomRow where
  roomCode : String
  createdAt : Timestamp
  expiresAt : Option Timestamp
deriving DecidableEq

structure PeerRow where
  roomId : RoomId
  virtualIp : VirtualIp
  wireguardPublicKey : String
  joinedAt : Timestamp
  leftAt : Option Timestamp
deriving DecidableEq

/-- Why a statement fails: the constraint it violates, or something else. -/
inductive SqlError
  | roomsPkey
  | roomsRoomCodeKey
  | peersPkey
  | peersVirtualIpKey
  | peersWireguardPublicKeyKey
  | peersRoomIdFkey
  | unavailable
deriving DecidableEq

@[ext] structure Database where
  rooms : ExtTreeMap RoomId RoomRow
  peers : ExtTreeMap PeerId PeerRow

namespace Database

def empty : Database := { rooms := ∅, peers := ∅ }

def insertRoom (db : Database) (roomId : RoomId) (roomCode : RoomCode) (now : Timestamp) : Except SqlError Database :=
  if db.rooms.contains roomId then .error .roomsPkey
  else if anyRow (fun row => row.roomCode = roomCode.value) db.rooms then .error .roomsRoomCodeKey
  else .ok { db with
    rooms := db.rooms.insert roomId { roomCode := roomCode.value, createdAt := now, expiresAt := none } }

/-- The peers of the room go with it, `ON DELETE CASCADE`. -/
def deleteRoom (db : Database) (roomId : RoomId) : Database :=
  { rooms := db.rooms.erase roomId, peers := db.peers.filter fun _ row => row.roomId ≠ roomId }

def insertPeer (db : Database) (roomId : RoomId) (peerId : PeerId) (virtualIp : VirtualIp)
    (wireguardPublicKey : String) (now : Timestamp) : Except SqlError Database :=
  if db.peers.contains peerId then .error .peersPkey
  else if anyRow (fun row => row.virtualIp = virtualIp) db.peers then .error .peersVirtualIpKey
  else if anyRow (fun row => row.wireguardPublicKey = wireguardPublicKey) db.peers then
    .error .peersWireguardPublicKeyKey
  else if !db.rooms.contains roomId then .error .peersRoomIdFkey
  else .ok { db with
    peers := db.peers.insert peerId { roomId, virtualIp, wireguardPublicKey, joinedAt := now, leftAt := none } }

def deletePeer (db : Database) (peerId : PeerId) : Database := { db with peers := db.peers.erase peerId }

/-! ## What a statement that goes through has found -/

theorem insertRoom_ok {db db' : Database} {roomId : RoomId} {roomCode : RoomCode} {now : Timestamp}
    (h : db.insertRoom roomId roomCode now = .ok db') :
    (∀ (id : RoomId) (row : RoomRow), db.rooms[id]? = some row → row.roomCode ≠ roomCode.value) ∧
      db' = { db with
        rooms := db.rooms.insert roomId { roomCode := roomCode.value, createdAt := now, expiresAt := none } } := by
  unfold insertRoom at h
  split at h
  · cases h
  split at h
  · cases h
  rename_i hany
  cases h
  refine ⟨fun id row hr e => hany ?_, rfl⟩
  exact anyRow_eq_true.2 ⟨id, row, hr, decide_eq_true e⟩

theorem insertPeer_ok {db db' : Database} {roomId : RoomId} {peerId : PeerId} {virtualIp : VirtualIp}
    {wireguardPublicKey : String} {now : Timestamp}
    (h : db.insertPeer roomId peerId virtualIp wireguardPublicKey now = .ok db') :
    (∀ (id : PeerId) (row : PeerRow), db.peers[id]? = some row → row.wireguardPublicKey ≠ wireguardPublicKey) ∧
      db' = { db with
        peers :=
          db.peers.insert peerId { roomId, virtualIp, wireguardPublicKey, joinedAt := now, leftAt := none } } := by
  unfold insertPeer at h
  split at h
  · cases h
  split at h
  · cases h
  split at h
  · cases h
  rename_i hany
  split at h
  · cases h
  cases h
  refine ⟨fun id row hr e => hany ?_, rfl⟩
  exact anyRow_eq_true.2 ⟨id, row, hr, decide_eq_true e⟩

end Database

end Civ6LanBridge
