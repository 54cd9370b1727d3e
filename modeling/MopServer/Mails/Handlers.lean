import MopServer.Mails.Mail

/-! # The mail handlers

A mailbox is used through requests of players: sending a mail, opening the mailbox,
marking, deleting and returning a mail, and taking its item or its money.  The
handlers act on the mails and mailed items in memory and on the mail tables.
-/

namespace MopServer.Mails

open MopServer.Foundation

/-- What the mail handlers ask of the rest of the server.  Bags are used only through
the four operations below; `canStoreItem` is the search over all bags. -/
structure Environment (Inventory : Type) where
  mailLevelReq : UInt8
  mailDeliveryDelay : Nat
  /-- `normalizePlayerName` and `GetPlayerGUIDByName`: the counter of the character, or
  zero. -/
  getPlayerGuidByName : String → UInt32
  /-- Zero for a character that does not exist. -/
  getPlayerAccountIdByGuid : UInt32 → UInt32
  mailTemplateExists : UInt16 → Bool
  /-- The item's template exists and `Item::LoadFromDB` accepts the row. -/
  loadsFromDb : Item → Bool
  getItemByGuid : Inventory → UInt64 → Option Item
  moveItemFromInventory : Inventory → Item → Inventory
  canStoreItem : Inventory → Item → UInt8
  moveItemToInventory : Inventory → Item → Inventory

/-- The players in the world by counter, the next mail id, and the tables. -/
structure Realm (Inventory : Type) where
  players : UInt32 → Option (Player Inventory)
  mailId : Nat
  db : Database

/-- What a request meets outside the mail system: the clock, whether its mailbox is
in reach, and the session's message counter. -/
structure Circumstances where
  time : Nat
  atMailbox : Bool
  updateAntispamCount : Bool
  deriving DecidableEq, Repr

inductive MailResponseType where
  | send
  | moneyTaken
  | itemTaken
  | returnedToSender
  | deleted
  deriving DecidableEq, Repr

inductive MailResponseResult where
  | ok
  | equipError
  | cannotSendToSelf
  | notEnoughMoney
  | recipientNotFound
  | internalError
  | recipientCapReached
  | cantSendWrappedCod
  | tooManyAttachments
  | mailAttachmentInvalid
  deriving DecidableEq, Repr

/-- `SendMailResult`. -/
structure MailResult where
  mailId : Nat
  mailAction : MailResponseType
  mailError : MailResponseResult
  equipError : UInt8 := 0
  itemGuid : UInt32 := 0
  itemCount : UInt32 := 0
  deriving DecidableEq, Repr

/-- The effect of a request.  A handler that returns silently sends no result. -/
structure Outcome (Inventory : Type) where
  realm : Realm Inventory
  result : Option MailResult := none
  /-- The item handed to `MoveItemToInventory`. -/
  stored : Option Item := none

def equipErrOk : UInt8 := 0
def equipErrItemNotFound : UInt8 := 23
def equipErrDestroyNonemptyBag : UInt8 := 31
def equipErrMailBoundItem : UInt8 := 72
def equipErrNotSameAccount : UInt8 := 82

section

variable {Inventory : Type} (realm : Realm Inventory) (low : UInt32) (player : Player Inventory)

def Realm.setPlayer : Realm Inventory :=
  { realm with players := Function.update realm.players low (some player) }

/-! ## Drafts -/

/-- The attachments of a draft are an ordered map keyed by the item's counter. -/
def byGuidLow : Rearrangement Item :=
  ⟨List.insertionSort fun first second => first.guidLow ≤ second.guidLow,
    fun rows => List.perm_insertionSort _ rows⟩

structure MailDraft where
  mailTemplateId : UInt16 := 0
  subject : String := ""
  body : String := ""
  items : Table Item := Table.empty
  money : UInt64 := 0
  cod : UInt64 := 0

variable (env : Environment Inventory)

/-- The account `SendReturnToSender` compares with: it is looked up only for a receiver
who is not in the world. -/
def returnAccount (realm : Realm Inventory) (receiver : UInt32) : UInt32 :=
  if (realm.players receiver).isSome then 0 else env.getPlayerAccountIdByGuid receiver

variable (receiver : UInt32) (db : Database)

def saveForReceiver (item : Item) : Database :=
  db.saveItem { item with ownerGuid := makeNewGuid receiver.toUInt64 0 HighGuid.player }

namespace MailDraft

variable (draft : MailDraft)

def addItem (item : Item) : MailDraft :=
  { draft with items := draft.items.insert item byGuidLow }

def addMoney (money : UInt64) : MailDraft := { draft with money := money }

/-- `AddCOD` takes a 32-bit parameter. -/
def addCod (cod : UInt32) : MailDraft :=
  { draft with cod := cod.toUInt64 }

/-- The mail put into the mailbox of a receiver who has it open. -/
def toMail (mailId : Nat) (receiver sender : UInt32) (messageType : MailMessageType)
    (checked : UInt32) (deliverTime : Nat) : Mail where
  messageId := mailId
  messageType := messageType
  mailTemplateId := draft.mailTemplateId
  sender := sender
  receiver := receiver
  subject := draft.subject
  body := draft.body
  items := draft.items.rows.map fun item => ⟨item.guidLow, item.entry⟩
  removedItems := []
  deliverTime := deliverTime
  money := draft.money
  cod := draft.cod
  checked := checked
  state := .unchanged

/-- `CHAR_INS_MAIL`: the charge on delivery is written as a 32-bit parameter. -/
def toRow (mailId : Nat) (receiver sender : UInt32) (messageType : MailMessageType)
    (checked : UInt32) (deliverTime : Nat) : MailRow where
  id := mailId
  messageType := messageType
  mailTemplateId := draft.mailTemplateId
  sender := sender
  receiver := receiver
  subject := draft.subject
  body := draft.body
  hasItems := !draft.items.rows.isEmpty
  deliverTime := deliverTime
  money := draft.money
  cod := draft.cod.toUInt32
  checked := checked.toUInt8

/-- `MailDraft::SendMailTo`, for drafts whose items need no preparation.  The mail is
written to the tables; a receiver with an open mailbox also gets it in memory. -/
def sendMailTo (realm : Realm Inventory) (receiver sender : UInt32) (messageType : MailMessageType)
    (checked : UInt32) (time deliverDelay : Nat) : Realm Inventory :=
  let mailId := realm.mailId
  let deliverTime := time + deliverDelay
  let mail := draft.toMail mailId receiver sender messageType checked deliverTime
  let row := draft.toRow mailId receiver sender messageType checked deliverTime
  let itemRows := draft.items.rows.map fun item => ⟨mailId, item.guidLow, receiver⟩
  let db :=
    { realm.db with
      mail := realm.db.mail.insert row (Rearrangement.keep MailRow)
      mailItems := realm.db.mailItems ++ itemRows }
  let realm := { realm with mailId := mailId + 1, db := db }
  match realm.players receiver with
  | none => realm
  | some player =>
    if player.mailsLoaded then
      realm.setPlayer receiver (draft.items.rows.foldl Player.addMItem (player.addMail mail))
    else realm

/-- `MailDraft::SendReturnToSender`: the items of a mail whose sender does not exist any
more are destroyed. -/
def sendReturnToSender (env : Environment Inventory) (realm : Realm Inventory)
    (senderAccount sender receiver : UInt32) (time : Nat) : Realm Inventory :=
  let account := returnAccount env realm receiver
  if (realm.players receiver).isNone && account = 0 then
    { realm with
      db := draft.items.rows.foldl (fun db item => db.deleteItemInstance item.guidLow) realm.db }
  else
    let needItemDelay := !draft.items.rows.isEmpty && senderAccount ≠ account
    let deliverDelay := if needItemDelay then env.mailDeliveryDelay else 0
    let realm := { realm with db := draft.items.rows.foldl (saveForReceiver receiver) realm.db }
    draft.sendMailTo realm receiver sender .normal mailCheckMaskReturned time deliverDelay

end MailDraft

/-! ## Sending -/

/-- `CMSG_SEND_MAIL`. -/
structure SendMailRequest where
  receiver : String
  subject : String
  body : String
  money : UInt64
  cod : UInt64
  itemGuids : List UInt64
  deriving DecidableEq, Repr

def stripRealm (receiver : String) : String :=
  let name := receiver.toList.takeWhile (· ≠ '-')
  if name = [] then receiver else String.ofList name

def checkMailText (text : String) : Bool :=
  !(text.toList.map Char.toLower).tails.any ("|tinterface".toList.isPrefixOf ·)

def checkAttachment (player : Player Inventory) (receiverAccount : UInt32) (cod itemGuid : UInt64) :
    Except (MailResponseResult × UInt8) Item :=
  if itemGuid = 0 then .error (.mailAttachmentInvalid, 0) else
  match env.getItemByGuid player.inventory itemGuid with
  | none => .error (.mailAttachmentInvalid, 0)
  | some item =>
    if !item.canBeTraded then .error (.equipError, equipErrMailBoundItem)
    else if item.isBoundAccountWide && item.isSoulBound &&
        player.accountId ≠ receiverAccount then
      .error (.equipError, equipErrNotSameAccount)
    else if item.isConjured || item.duration ≠ 0 then
      .error (.equipError, equipErrMailBoundItem)
    else if cod ≠ 0 && item.isWrapped then .error (.cantSendWrappedCod, 0)
    else if item.isNotEmptyBag then .error (.equipError, equipErrDestroyNonemptyBag)
    else .ok item

variable (request : SendMailRequest)

/-- The price of sending: thirty copper for each item, and for a letter. -/
def postage : UInt64 :=
  if request.itemGuids = [] then 30 else 30 * UInt64.ofNat request.itemGuids.length

/-- The money `HandleSendMail` charges; the sum of two unsigned numbers. -/
def requiredMoney : UInt64 := postage request + request.money

/-- The account of the receiver, read from his session when he is in the world. -/
def receiverAccount (realm : Realm Inventory) (receiver : UInt32) : UInt32 :=
  match realm.players receiver with
  | some player => player.accountId
  | none => env.getPlayerAccountIdByGuid receiver

/-- `GetMailSize` stored in an 8-bit counter. -/
def mailsCount : UInt8 :=
  match realm.players receiver with
  | some player => UInt8.ofNat player.mails.rows.length
  | none => 0

/-- The checks of `HandleSendMail` in their order; the receiver's counter and the items
to send if all pass. -/
def checkSendMail (realm : Realm Inventory) (circumstances : Circumstances) (low : UInt32)
    (player : Player Inventory) (request : SendMailRequest) :
    Except (MailResponseResult × UInt8) (UInt32 × List Item) :=
  let receiver := env.getPlayerGuidByName (stripRealm request.receiver)
  let account := receiverAccount env realm receiver
  if maxMailItems < request.itemGuids.length then .error (.tooManyAttachments, 0)
  else if !circumstances.atMailbox then .error (.internalError, 0)
  else if request.receiver.isEmpty then .error (.internalError, 0)
  else if player.level < env.mailLevelReq then .error (.internalError, 0)
  else if receiver = 0 then .error (.recipientNotFound, 0)
  else if low = receiver then .error (.cannotSendToSelf, 0)
  else if !hasEnoughMoney player.money (requiredMoney request) && !player.isGameMaster then
    .error (.notEnoughMoney, 0)
  else if 100 < mailsCount realm receiver then .error (.recipientCapReached, 0)
  else
    match request.itemGuids.mapM (checkAttachment env player account request.cod) with
    | .error refusal => .error refusal
    | .ok items =>
      if !circumstances.updateAntispamCount then .error (.internalError, 0)
      else if !checkMailText request.subject || !checkMailText request.body then
        .error (.internalError, 0)
      else .ok (receiver, items)

/-- Take an item out of the sender's bags, hand it to the receiver and save it. -/
def detachItem (state : Player Inventory × Database × MailDraft) (item : Item) :
    Player Inventory × Database × MailDraft :=
  let (player, db, draft) := state
  let inventory := env.moveItemFromInventory player.inventory item
  let item := { item with ownerGuid := makeNewGuid receiver.toUInt64 0 HighGuid.player }
  ({ player with inventory := inventory }, db.saveItem item, draft.addItem item)

/-- Whether the items of a mail arrive late: only between accounts, and not between
members of a guild with the perk. -/
def needItemDelay (account : UInt32) (receiver : UInt32) (items : List Item) : Bool :=
  let betweenAccounts := !items.isEmpty && player.accountId ≠ account
  match realm.players receiver with
  | none => betweenAccounts
  | some receive =>
    if receive.guildId ≠ 0 && player.guildId ≠ 0 && player.hasGuildMail &&
        player.guildId = receive.guildId then false
    else betweenAccounts

/-- `HandleSendMail` once all checks have passed. -/
def acceptSendMail (realm : Realm Inventory) (time : Nat) (low : UInt32) (player : Player Inventory)
    (request : SendMailRequest) (receiver : UInt32) (items : List Item) (d : Int) :
    Realm Inventory :=
  let account := receiverAccount env realm receiver
  let deliverDelay :=
    if needItemDelay realm player account receiver items then env.mailDeliveryDelay else 0
  let charged := { player with money := modifyMoney player.money d }
  let draft : MailDraft := { subject := request.subject, body := request.body }
  let (sender, db, draft) := items.foldl (detachItem env receiver) (charged, realm.db, draft)
  let realm := { realm.setPlayer low sender with db := db }
  let checked := if request.body.isEmpty then mailCheckMaskCopied else mailCheckMaskHasBody
  ((draft.addMoney request.money).addCod request.cod.toUInt32).sendMailTo realm receiver low
    .normal checked time deliverDelay

/-- `WorldSession::HandleSendMail`. -/
def handleSendMail (realm : Realm Inventory) (circumstances : Circumstances) (low : UInt32)
    (player : Player Inventory) (request : SendMailRequest) : Option (Outcome Inventory) :=
  match checkSendMail env realm circumstances low player request with
  | .error (error, equipError) =>
    some { realm := realm, result := some ⟨0, .send, error, equipError, 0, 0⟩ }
  | .ok (receiver, items) => do
      let d ← negSigned 64 (requiredMoney request).toNat
      let realm := acceptSendMail env realm circumstances.time low player request receiver items d
      some { realm := realm, result := some ⟨0, .send, .ok, 0, 0, 0⟩ }

/-! ## The mailbox -/

/-- A row of `mail` read back. -/
def MailRow.toMail (row : MailRow) : Mail where
  messageId := row.id
  messageType := row.messageType
  mailTemplateId := if env.mailTemplateExists row.mailTemplateId then row.mailTemplateId else 0
  sender := row.sender
  receiver := row.receiver
  subject := row.subject
  body := row.body
  items := []
  removedItems := []
  deliverTime := row.deliverTime % 2 ^ 32
  money := row.money
  cod := row.cod.toUInt64
  checked := row.checked.toUInt32
  state := .unchanged

/-- `_LoadMailedItems` on one item: the mail lists it even if it cannot be loaded. -/
def loadMailedItem (state : Mail × Player Inventory × Database) (item : Item) :
    Mail × Player Inventory × Database :=
  let (mail, player, db) := state
  if env.loadsFromDb item then (mail.addItem item, player.addMItem item, db)
  else
    (mail.addItem item, player,
      (db.deleteMailItem item.guidLow).deleteItemInstance item.guidLow)

variable (circumstances : Circumstances) (mailId : Nat)

/-- `CHAR_SEL_MAILITEMS`. -/
def selectMailItems : List Item :=
  (db.mailItems.filter fun row => row.mailId = mailId).filterMap
    fun row => db.itemInstance row.itemGuid

/-- `_LoadMail` on one row. -/
def loadMailRow (state : Player Inventory × Database) (row : MailRow) :
    Player Inventory × Database :=
  let (player, db) := state
  let items := if row.hasItems then selectMailItems db row.id else []
  let (mail, player, db) := items.foldl (loadMailedItem env) (row.toMail env, player, db)
  (player.addMail mail, db)

/-- `CHAR_SEL_MAIL`, oldest first: `_LoadMail` appends the rows in descending order,
which is adding them in front in ascending order. -/
def selectMail (receiver : UInt32) : List MailRow :=
  (db.mail.rows.filter fun row => row.receiver = receiver).insertionSort
    fun first second => first.id ≤ second.id

/-- `Player::_LoadMail`. -/
def loadMail (low : UInt32) (player : Player Inventory) (db : Database) :
    Player Inventory × Database :=
  let start := { player with mails := Table.empty, mailsLoaded := true }
  (selectMail db low).foldl (loadMailRow env) (start, db)

/-- The mail a request may act on. -/
def availableMail (time : Nat) : Option Mail :=
  (player.getMail mailId).filter fun mail => mail.state ≠ .deleted && mail.deliverTime ≤ time

/-- Write the changed mails of a player back. -/
def commitMail : Realm Inventory :=
  let (player, db) := saveMail player realm.db
  { realm.setPlayer low player with db := db }

/-- `WorldSession::HandleGetMailList`. -/
def handleGetMailList (realm : Realm Inventory) (circumstances : Circumstances) (low : UInt32)
    (player : Player Inventory) : Outcome Inventory :=
  if !circumstances.atMailbox || player.mailsLoaded then { realm := realm }
  else
    let (player, db) := loadMail env low player realm.db
    { realm := { realm.setPlayer low player with db := db } }

variable (mail : Mail)

def Mail.markedAsRead : Mail :=
  { mail with checked := mail.checked ||| mailCheckMaskRead, state := .changed }

def Mail.markedAsDeleted : Mail := { mail with state := .deleted }

def Mail.emptied : Mail := { mail with money := 0, state := .changed }

/-- `WorldSession::HandleMailMarkAsRead`. -/
def handleMailMarkAsRead (low : UInt32) (player : Player Inventory) (mailId : Nat) :
    Outcome Inventory :=
  if !circumstances.atMailbox then { realm := realm }
  else
    match player.getMail mailId with
    | none => { realm := realm }
    | some _ =>
      let player :=
        { player with
          mails := player.mails.modify mailId Mail.markedAsRead
          mailsUpdated := true }
      { realm := realm.setPlayer low player }

/-- `WorldSession::HandleMailDelete`: mails that ask for money are kept. -/
def handleMailDelete : Outcome Inventory :=
  let player := { player with mailsUpdated := true }
  match player.getMail mailId with
  | none =>
    { realm := realm.setPlayer low player, result := some ⟨mailId, .deleted, .ok, 0, 0, 0⟩ }
  | some mail =>
    if mail.cod ≠ 0 then
      { realm := realm.setPlayer low player
        result := some ⟨mailId, .deleted, .internalError, 0, 0, 0⟩ }
    else
      let player := { player with mails := player.mails.modify mailId Mail.markedAsDeleted }
      { realm := realm.setPlayer low player, result := some ⟨mailId, .deleted, .ok, 0, 0, 0⟩ }

def returnItem (state : Player Inventory × MailDraft) (info : MailItemInfo) :
    Player Inventory × MailDraft :=
  let (player, draft) := state
  let draft :=
    match player.getMItem info.itemGuid with
    | some item => draft.addItem item
    | none => draft
  (player.removeMItem info.itemGuid, draft)

def returnDraft : MailDraft :=
  if mail.mailTemplateId ≠ 0 then { mailTemplateId := mail.mailTemplateId }
  else { subject := mail.subject, body := mail.body }

/-- Return a mail that is available: only mails of players have somebody to go to. -/
def returnMail (realm : Realm Inventory) (time : Nat) (low : UInt32) (player : Player Inventory)
    (mail : Mail) : Realm Inventory :=
  let db := (realm.db.deleteMailById mail.messageId).deleteMailItemById mail.messageId
  let player := player.removeMail mail.messageId
  if mail.messageType = .normal ∧ mail.sender ≠ 0 then
    let (player, draft) := mail.items.foldl returnItem (player, returnDraft mail)
    (draft.addMoney mail.money).sendReturnToSender env
      { realm.setPlayer low player with db := db } player.accountId mail.receiver mail.sender
      time
  else { realm.setPlayer low player with db := db }

/-- `WorldSession::HandleMailReturnToSender`. -/
def handleMailReturnToSender (realm : Realm Inventory) (circumstances : Circumstances)
    (low : UInt32) (player : Player Inventory) (mailId : Nat) : Outcome Inventory :=
  match availableMail player mailId circumstances.time with
  | none =>
    { realm := realm, result := some ⟨mailId, .returnedToSender, .internalError, 0, 0, 0⟩ }
  | some mail =>
    { realm := returnMail env realm circumstances.time low player mail
      result := some ⟨mailId, .returnedToSender, .ok, 0, 0, 0⟩ }

/-- The sender of a mail can be paid: he is in the world or has an account. -/
def senderExists (realm : Realm Inventory) (sender : UInt32) : Bool :=
  (realm.players sender).isSome || env.getPlayerAccountIdByGuid sender ≠ 0

def payCod (realm : Realm Inventory) (time : Nat) (mail : Mail) : Realm Inventory :=
  if senderExists env realm mail.sender then
    ({ subject := mail.subject, body := "" : MailDraft }.addMoney mail.cod).sendMailTo realm
      mail.sender mail.receiver .normal mailCheckMaskCodPayment time 0
  else realm

/-- The mail after one of its items has been taken: nothing is owed on it any more. -/
def Mail.taken (itemId : UInt32) : Mail :=
  { mail.removeItem itemId with
    removedItems := mail.removedItems ++ [itemId]
    cod := 0
    state := .changed }

/-- The player after taking an item from a mail: `d` is the change of his money. -/
def takeFrom (player : Player Inventory) (mailId : Nat) (itemId : UInt32) (item : Item)
    (d : Option Int) : Player Inventory :=
  let money := match d with
    | some d => modifyMoney player.money d
    | none => player.money
  { player with
    money := money
    mails := player.mails.modify mailId fun mail => mail.taken itemId
    mailItems := player.mailItems.erase item.guidLow
    inventory := env.moveItemToInventory player.inventory item
    mailsUpdated := true }

/-- Only the letter itself loses the item. -/
theorem mem_takeFrom {env : Environment Inventory} {player : Player Inventory} {mailId : Nat}
    {itemId : UInt32} {item : Item} {d : Option Int} {mail : Mail} :
    mail ∈ (takeFrom env player mailId itemId item d).mails ↔
      ∃ old ∈ player.mails,
        (if old.messageId = mailId then old.taken itemId else old) = mail :=
  Table.mem_modify (f := fun mail => Mail.taken mail itemId) fun _ => rfl

/-- Take an available item: `CanStoreItem` has found room for it.  The payment may
reach the player's own mailbox, so he is read again after it. -/
def takeItem (realm : Realm Inventory) (time : Nat) (low : UInt32) (player : Player Inventory)
    (mail : Mail) (itemId : UInt32) (item : Item) : Option (Realm Inventory) :=
  if mail.cod = 0 then
    some (commitMail realm low (takeFrom env player mail.messageId itemId item none))
  else do
    let d ← negSigned 32 mail.cod.toNat
    let realm := payCod env realm time mail
    let player := (realm.players low).getD player
    some (commitMail realm low (takeFrom env player mail.messageId itemId item (some d)))

/-- `WorldSession::HandleMailTakeItem`: the item is looked up among the items of all
mails, whatever the mail. -/
def handleMailTakeItem (realm : Realm Inventory) (circumstances : Circumstances) (low : UInt32)
    (player : Player Inventory) (mailId : Nat) (itemId : UInt32) : Option (Outcome Inventory) :=
  let refuse (error : MailResponseResult) (equipError : UInt8) : Option (Outcome Inventory) :=
    some { realm := realm, result := some ⟨mailId, .itemTaken, error, equipError, 0, 0⟩ }
  if !circumstances.atMailbox then some { realm := realm } else
  match availableMail player mailId circumstances.time with
  | none => refuse .internalError 0
  | some mail =>
    if !hasEnoughMoney player.money mail.cod then refuse .notEnoughMoney 0 else
    match player.getMItem itemId with
    | none => refuse .equipError equipErrItemNotFound
    | some item =>
      let msg := env.canStoreItem player.inventory item
      if msg ≠ equipErrOk then refuse .equipError msg
      else do
        let realm ← takeItem env realm circumstances.time low player mail itemId item
        some {
          realm := realm
          result := some ⟨mailId, .itemTaken, .ok, 0, itemId, item.count⟩
          stored := some item }

/-- What `HandleMailTakeItem` checks before it takes an item. -/
structure TakesItem (env : Environment Inventory) (circumstances : Circumstances)
    (player : Player Inventory) (mailId : Nat) (itemId : UInt32) (mail : Mail)
    (item : Item) : Prop where
  atMailbox : circumstances.atMailbox = true
  available : availableMail player mailId circumstances.time = some mail
  covered : hasEnoughMoney player.money mail.cod = true
  held : player.getMItem itemId = some item
  room : env.canStoreItem player.inventory item = equipErrOk

/-- `HandleMailTakeItem` takes the item or leaves the realm as it is. -/
theorem handleMailTakeItem_cases (realm : Realm Inventory) (circumstances : Circumstances)
    (low : UInt32) (player : Player Inventory) (mailId : Nat) (itemId : UInt32) :
    (∃ mail item, TakesItem env circumstances player mailId itemId mail item ∧
      handleMailTakeItem env realm circumstances low player mailId itemId =
        (takeItem env realm circumstances.time low player mail itemId item).map fun realm =>
          { realm := realm
            result := some ⟨mailId, .itemTaken, .ok, 0, itemId, item.count⟩
            stored := some item }) ∨
    (¬ ∃ mail item, TakesItem env circumstances player mailId itemId mail item) ∧
      ∃ result, handleMailTakeItem env realm circumstances low player mailId itemId =
        some { realm := realm, result := result } := by
  unfold handleMailTakeItem
  by_cases hbox : circumstances.atMailbox = true
  · simp only [hbox, Bool.not_true, Bool.false_eq_true, if_false]
    cases hmail : availableMail player mailId circumstances.time with
    | none =>
      refine Or.inr ⟨?_, _, rfl⟩
      rintro ⟨mail, item, htakes⟩
      exact absurd htakes.available (by simp [hmail])
    | some mail =>
      by_cases hmoney : hasEnoughMoney player.money mail.cod = true
      · simp only [hmoney, Bool.not_true, Bool.false_eq_true, if_false]
        cases hitem : player.getMItem itemId with
        | none =>
          refine Or.inr ⟨?_, _, rfl⟩
          rintro ⟨_, item, htakes⟩
          exact absurd htakes.held (by simp [hitem])
        | some item =>
          by_cases hroom : env.canStoreItem player.inventory item = equipErrOk
          · refine Or.inl ⟨mail, item, ⟨hbox, hmail, hmoney, hitem, hroom⟩, ?_⟩
            simp only [hroom, ne_eq, not_true, if_false]
            cases takeItem env realm circumstances.time low player mail itemId item <;> rfl
          · refine Or.inr ⟨?_, _, if_pos hroom⟩
            rintro ⟨_, other, htakes⟩
            obtain rfl := Option.some.inj (hitem.symm.trans htakes.held)
            exact hroom htakes.room
      · simp only [hmoney, Bool.not_false, if_true]
        refine Or.inr ⟨?_, _, rfl⟩
        rintro ⟨other, item, htakes⟩
        obtain rfl := Option.some.inj (hmail.symm.trans htakes.available)
        exact hmoney htakes.covered
  · simp only [hbox, Bool.not_false, if_true]
    exact Or.inr ⟨fun ⟨_, _, htakes⟩ => hbox htakes.atMailbox, none, rfl⟩

theorem mem_of_availableMail {player : Player Inventory} {mailId time : Nat} {mail : Mail}
    (hmail : availableMail player mailId time = some mail) :
    mail ∈ player.mails ∧ mail.messageId = mailId :=
  Table.get?_eq_some_iff.mp (Option.filter_eq_some_iff.mp hmail).1

/-- `WorldSession::HandleMailTakeMoney`: a request for nothing empties the mail. -/
def handleMailTakeMoney (low : UInt32) (player : Player Inventory) (mailId : Nat) (money : UInt64) :
    Outcome Inventory :=
  let refuse (error : MailResponseResult) : Outcome Inventory :=
    { realm := realm, result := some ⟨mailId, .moneyTaken, error, 0, 0, 0⟩ }
  if !circumstances.atMailbox then { realm := realm } else
  match availableMail player mailId circumstances.time with
  | none => refuse .internalError
  | some mail =>
    if 0 < money && mail.money ≠ money then refuse .internalError
    else if maxMoneyAmount < (player.money + money).toNat then refuse .equipError
    else
      let player :=
        { player with
          money := modifyMoney player.money (Int.bmod money.toNat (2 ^ 64))
          mails := player.mails.modify mailId Mail.emptied
          mailsUpdated := true }
      { realm := commitMail realm low player
        result := some ⟨mailId, .moneyTaken, .ok, 0, 0, 0⟩ }

/-! ## Requests and events -/

inductive Request where
  | sendMail (request : SendMailRequest)
  | getMailList
  | markAsRead (mailId : Nat)
  | delete (mailId : Nat)
  | returnToSender (mailId : Nat)
  | takeItem (mailId : Nat) (itemId : UInt32)
  | takeMoney (mailId : Nat) (money : UInt64)
  deriving DecidableEq, Repr

/-- The handler of a request; `none` stands for undefined behaviour. -/
def handle (realm : Realm Inventory) (circumstances : Circumstances) (low : UInt32)
    (player : Player Inventory) : Request → Option (Outcome Inventory)
  | .sendMail request => handleSendMail env realm circumstances low player request
  | .getMailList => some (handleGetMailList env realm circumstances low player)
  | .markAsRead mailId => some (handleMailMarkAsRead realm circumstances low player mailId)
  | .delete mailId => some (handleMailDelete realm low player mailId)
  | .returnToSender mailId =>
    some (handleMailReturnToSender env realm circumstances low player mailId)
  | .takeItem mailId itemId =>
    handleMailTakeItem env realm circumstances low player mailId itemId
  | .takeMoney mailId money =>
    some (handleMailTakeMoney realm circumstances low player mailId money)

inductive Event (Inventory : Type) where
  | request (low : UInt32) (circumstances : Circumstances) (request : Request)
  | login (low : UInt32) (character : Character Inventory)
  | logout (low : UInt32)

/-- A character enters the world with a closed mailbox, and leaves it after his changed
mails have been saved.  Requests of players who are not in the world do not exist. -/
def perform (realm : Realm Inventory) : Event Inventory → Option (Outcome Inventory)
  | .request low circumstances request =>
    match realm.players low with
    | none => some { realm := realm }
    | some player => handle env realm circumstances low player request
  | .login low character =>
    match realm.players low with
    | none => some { realm := realm.setPlayer low { toCharacter := character } }
    | some _ => some { realm := realm }
  | .logout low =>
    match realm.players low with
    | none => some { realm := realm }
    | some player =>
      let db := if player.mailsUpdated then (saveMail player realm.db).2 else realm.db
      some { realm := { realm with players := Function.update realm.players low none,
                                   db := db } }

end

end MopServer.Mails
