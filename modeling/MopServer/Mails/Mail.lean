import MopServer.Entities.Money
import MopServer.Entities.ObjectGuid
import MopServer.Foundation.Table

/-! # Mails, mailed items and the mail tables

A player who has opened a mailbox holds his mails in memory, and beside them one
map of all mailed items keyed by the item's counter.  A mail refers to its items
only by that counter.  Everything is also written to the `mail`, `mail_items` and
`item_instance` tables, from which the mailbox is loaded.
-/

namespace MopServer.Mails

open MopServer.Foundation

/-- `MAX_MAIL_ITEMS`. -/
def maxMailItems : Nat := 12

inductive MailMessageType where
  | normal
  | auction
  | creature
  | gameObject
  | item
  deriving DecidableEq, Repr

inductive MailState where
  | unchanged
  | changed
  | deleted
  deriving DecidableEq, Repr

def mailCheckMaskRead : UInt32 := 0x001
def mailCheckMaskReturned : UInt32 := 0x002
def mailCheckMaskCopied : UInt32 := 0x004
def mailCheckMaskCodPayment : UInt32 := 0x008
def mailCheckMaskHasBody : UInt32 := 0x010

/-- An item, with the answers to the questions `HandleSendMail` asks about it. -/
structure Item where
  guid : UInt64
  entry : UInt32
  count : UInt32
  ownerGuid : UInt64
  canBeTraded : Bool
  isBoundAccountWide : Bool
  isSoulBound : Bool
  isConjured : Bool
  duration : UInt32
  isWrapped : Bool
  isNotEmptyBag : Bool
  deriving DecidableEq, Repr

def Item.guidLow (item : Item) : UInt32 := guidLoPart item.guid

instance : Keyed Item UInt32 := ⟨Item.guidLow⟩

structure MailItemInfo where
  itemGuid : UInt32
  itemTemplate : UInt32
  deriving DecidableEq, Repr

/-- A mail in memory.  Ids are numbers: `GenerateMailID` stops the server before
they wrap. -/
structure Mail where
  messageId : Nat
  messageType : MailMessageType
  mailTemplateId : UInt16
  sender : UInt32
  receiver : UInt32
  subject : String
  body : String
  items : List MailItemInfo
  removedItems : List UInt32
  deliverTime : Nat
  money : UInt64
  cod : UInt64
  checked : UInt32
  state : MailState
  deriving DecidableEq, Repr

instance : Keyed Mail Nat := ⟨Mail.messageId⟩

variable (mail : Mail)

@[simp] theorem key_mail : Keyed.key mail = mail.messageId := rfl

@[simp] theorem key_item (item : Item) : Keyed.key item = item.guidLow := rfl

namespace Mail

variable (mail : Mail)

def hasItems : Bool := !mail.items.isEmpty

/-- `Mail::AddItem`. -/
def addItem (item : Item) : Mail :=
  { mail with items := mail.items ++ [⟨item.guidLow, item.entry⟩] }

variable (itemGuid : UInt32)

/-- `Mail::RemoveItem`: the first entry of that counter, if there is one. -/
def removeItem : Mail :=
  { mail with items := mail.items.eraseP fun info => info.itemGuid = itemGuid }

/-- The mail names the item as one of its attachments. -/
def Lists : Prop :=
  itemGuid ∈ mail.items.map MailItemInfo.itemGuid

instance (mail : Mail) (itemGuid : UInt32) : Decidable (mail.Lists itemGuid) :=
  inferInstanceAs (Decidable (_ ∈ _))

theorem lists_of_lists_removeItem {mail : Mail} {removed itemGuid : UInt32}
    (hlists : (mail.removeItem removed).Lists itemGuid) : mail.Lists itemGuid :=
  (List.eraseP_sublist.map _).subset hlists

end Mail

/-! ## The tables -/

/-- A row of the `mail` table. -/
structure MailRow where
  id : Nat
  messageType : MailMessageType
  mailTemplateId : UInt16
  sender : UInt32
  receiver : UInt32
  subject : String
  body : String
  hasItems : Bool
  deliverTime : Nat
  money : UInt64
  cod : UInt32
  checked : UInt8
  deriving DecidableEq, Repr

instance : Keyed MailRow Nat := ⟨MailRow.id⟩

@[simp] theorem key_mailRow (row : MailRow) : Keyed.key row = row.id := rfl

/-- A row of the `mail_items` table. -/
structure MailItemRow where
  mailId : Nat
  itemGuid : UInt32
  receiver : UInt32
  deriving DecidableEq, Repr

/-- A row rewritten from the mail in memory: all times and amounts are written as
32-bit parameters. -/
def Mail.updateRow (row : MailRow) : MailRow :=
  { row with
    hasItems := mail.hasItems
    deliverTime := mail.deliverTime % 2 ^ 32
    money := mail.money.toUInt32.toUInt64
    cod := mail.cod.toUInt32
    checked := mail.checked.toUInt8 }

structure Database where
  mail : Table MailRow
  mailItems : List MailItemRow
  itemInstance : UInt32 → Option Item

namespace Database

variable (db : Database)

/-- `CHAR_UPD_MAIL`. -/
def updateMail (mail : Mail) : Database :=
  { db with mail := db.mail.modify mail.messageId mail.updateRow }

theorem mem_updateMail {db : Database} {mail : Mail} {row : MailRow} :
    row ∈ (db.updateMail mail).mail ↔
      ∃ old ∈ db.mail, (if old.id = mail.messageId then mail.updateRow old else old) = row :=
  Table.mem_modify (f := mail.updateRow) fun _ => rfl

/-- `CHAR_DEL_MAIL_BY_ID`. -/
def deleteMailById (mailId : Nat) : Database :=
  { db with mail := db.mail.erase mailId }

/-- `CHAR_DEL_MAIL_ITEM_BY_ID`. -/
def deleteMailItemById (mailId : Nat) : Database :=
  { db with mailItems := db.mailItems.filter fun row => row.mailId ≠ mailId }

variable (itemGuid : UInt32)

/-- `CHAR_DEL_MAIL_ITEM`. -/
def deleteMailItem : Database :=
  { db with mailItems := db.mailItems.filter fun row => row.itemGuid ≠ itemGuid }

/-- `CHAR_DEL_ITEM_INSTANCE`. -/
def deleteItemInstance : Database :=
  { db with itemInstance := Function.update db.itemInstance itemGuid none }

/-- `Item::SaveToDB`. -/
def saveItem (item : Item) : Database :=
  { db with itemInstance := Function.update db.itemInstance item.guidLow (some item) }

end Database

/-! ## Players -/

/-- What a character brings along when he enters the world. -/
structure Character (Inventory : Type) where
  accountId : UInt32
  level : UInt8
  isGameMaster : Bool
  guildId : UInt32
  /-- The guild perk that delivers mail between members at once. -/
  hasGuildMail : Bool
  money : UInt64
  inventory : Inventory

/-- A player in the world.  The mailbox is empty until it is opened. -/
structure Player (Inventory : Type) extends Character Inventory where
  mailsLoaded : Bool := false
  mailsUpdated : Bool := false
  mails : Table Mail := Table.empty
  /-- `mMitems`: the items of all mails together. -/
  mailItems : Table Item := Table.empty

namespace Player

variable {Inventory : Type} (player : Player Inventory)

def getMail (mailId : Nat) : Option Mail := player.mails.get? mailId

/-- `AddMail`: a new mail becomes the first of the list. -/
def addMail (mail : Mail) : Player Inventory :=
  { player with mails := player.mails.insert mail (Rearrangement.keep Mail) }

def removeMail (mailId : Nat) : Player Inventory :=
  { player with mails := player.mails.erase mailId }

variable (itemGuid : UInt32)

def getMItem : Option Item := player.mailItems.get? itemGuid

def addMItem (item : Item) : Player Inventory :=
  { player with mailItems := player.mailItems.insert item (Rearrangement.keep Item) }

def removeMItem : Player Inventory :=
  { player with mailItems := player.mailItems.erase itemGuid }

end Player

/-- `_SaveMail` on one mail: a changed mail is written back together with its removed
items, a deleted one is dropped with the items still attached. -/
def saveMailRow (db : Database) (mail : Mail) : Database :=
  match mail.state with
  | .unchanged => db
  | .changed => mail.removedItems.foldl Database.deleteMailItem (db.updateMail mail)
  | .deleted =>
    let db := mail.items.foldl (fun db info => db.deleteItemInstance info.itemGuid) db
    (db.deleteMailById mail.messageId).deleteMailItemById mail.messageId

def Mail.saved : Mail :=
  match mail.state with
  | .changed => { mail with removedItems := [], state := .unchanged }
  | _ => mail

theorem Mail.saved_messageId : mail.saved.messageId = mail.messageId := by
  unfold Mail.saved
  split <;> rfl

/-- `Player::_SaveMail`. -/
def saveMail {Inventory : Type} (player : Player Inventory) (db : Database) :
    Player Inventory × Database :=
  if player.mailsLoaded then
    let mails := (player.mails.map Mail.saved Mail.saved_messageId).filter
      fun mail => mail.state ≠ .deleted
    ({ player with mails := mails, mailsUpdated := false },
      player.mails.rows.foldl saveMailRow db)
  else (player, db)

end MopServer.Mails
