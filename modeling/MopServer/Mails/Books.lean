import MopServer.Mails.Handlers

/-! # The books of the mail system

A mail exists in up to two copies, one in its receiver's open mailbox and one in the
table `mail`.  The books record for every mail id who is to pay for it and what is
owed.  Each operation of the mail system keeps all copies in agreement with the books
as long as the amounts are below the sign bit of a 32-bit number.
-/

namespace MopServer.Mails

open MopServer.Foundation

variable {Inventory : Type}

/-- What is owed on each mail and who is to pay it; ids from `next` on are unused. -/
structure Books where
  addressee : Nat → UInt32
  owed : Nat → Nat
  next : Nat

namespace Books

variable {books : Books}

/-- Enter a new mail. -/
def post (books : Books) (receiver : UInt32) (amount : Nat) : Books where
  addressee := Function.update books.addressee books.next receiver
  owed := Function.update books.owed books.next amount
  next := books.next + 1

def settle (books : Books) (mailId : Nat) : Books :=
  { books with owed := Function.update books.owed mailId 0 }

/-- A copy of a mail, in memory or in the table, that agrees with the books. -/
def Agrees (books : Books) (mailId : Nat) (receiver : UInt32) (cod : Nat) : Prop :=
  mailId < books.next ∧ books.addressee mailId = receiver ∧ cod = books.owed mailId

/-- All amounts are below the sign bit, and nothing is owed on unused ids. -/
structure Sound (books : Books) : Prop where
  small : ∀ mailId, books.owed mailId < 2 ^ 31
  unused : ∀ mailId, books.next ≤ mailId → books.owed mailId = 0

theorem Agrees.post {mailId : Nat} {receiver : UInt32} {cod : Nat}
    (hagrees : books.Agrees mailId receiver cod) (other : UInt32) (amount : Nat) :
    (books.post other amount).Agrees mailId receiver cod := by
  obtain ⟨hlt, haddressee, hcod⟩ := hagrees
  have hne : mailId ≠ books.next := Nat.ne_of_lt hlt
  refine ⟨Nat.lt_succ_of_lt hlt, ?_, ?_⟩
  · simpa [Books.post, Function.update_of_ne hne] using haddressee
  · simpa [Books.post, Function.update_of_ne hne] using hcod

theorem agrees_posted (books : Books) (receiver : UInt32) (amount : Nat) :
    (books.post receiver amount).Agrees books.next receiver amount :=
  ⟨Nat.lt_succ_self _, by simp [Books.post], by simp [Books.post]⟩

theorem Agrees.settle {mailId settled : Nat} {receiver : UInt32} {cod : Nat}
    (hagrees : books.Agrees mailId receiver cod) (hne : mailId ≠ settled) :
    (books.settle settled).Agrees mailId receiver cod :=
  ⟨hagrees.1, hagrees.2.1, by simpa [Books.settle, Function.update_of_ne hne] using hagrees.2.2⟩

theorem Sound.post (hsound : books.Sound) (receiver : UInt32) {amount : Nat}
    (hamount : amount < 2 ^ 31) : (books.post receiver amount).Sound := by
  constructor
  · intro mailId
    by_cases heq : mailId = books.next
    · simpa [Books.post, heq] using hamount
    · simpa [Books.post, Function.update_of_ne heq] using hsound.small mailId
  · intro mailId hle
    have hnext : books.next + 1 ≤ mailId := hle
    have hne : mailId ≠ books.next := by omega
    simpa [Books.post, Function.update_of_ne hne] using hsound.unused mailId (by omega)

theorem Sound.settle (hsound : books.Sound) (settled : Nat) : (books.settle settled).Sound := by
  constructor
  · intro mailId
    by_cases heq : mailId = settled
    · simp [Books.settle, heq]
    · simpa [Books.settle, Function.update_of_ne heq] using hsound.small mailId
  · intro mailId hle
    by_cases heq : mailId = settled
    · simp [Books.settle, heq]
    · simpa [Books.settle, Function.update_of_ne heq] using hsound.unused mailId hle

theorem Sound.owed_post_zero (hsound : books.Sound) (receiver : UInt32) :
    (books.post receiver 0).owed = books.owed := by
  have hzero : (0 : Nat) = books.owed books.next := (hsound.unused _ (Nat.le_refl _)).symm
  rw [hzero]
  exact Function.update_eq_self _ _

end Books

/-- A mailbox in memory agrees with the books, and only an open one holds mails. -/
structure Player.Agrees (books : Books) (low : UInt32) (player : Player Inventory) : Prop where
  mails : ∀ mail ∈ player.mails, books.Agrees mail.messageId low mail.cod.toNat
  opened : ∀ mail ∈ player.mails, player.mailsLoaded = true

/-- The table `mail` agrees with the books. -/
def Database.Agrees (books : Books) (db : Database) : Prop :=
  ∀ row ∈ db.mail, books.Agrees row.id row.receiver row.cod.toNat

/-- Every copy of every mail agrees with the books. -/
structure Realm.Agrees (books : Books) (realm : Realm Inventory) : Prop where
  next : realm.mailId = books.next
  players : ∀ low player, realm.players low = some player → player.Agrees books low
  db : realm.db.Agrees books

section Bookkeeping

variable {books : Books} {realm : Realm Inventory} {low : UInt32} {player : Player Inventory}

theorem Player.Agrees.post (hagrees : player.Agrees books low) (receiver : UInt32)
    (amount : Nat) : player.Agrees (books.post receiver amount) low :=
  ⟨fun mail hmail => (hagrees.mails mail hmail).post receiver amount, hagrees.opened⟩

variable (hrealm : realm.Agrees books)

include hrealm in
theorem Realm.Agrees.setPlayer (hplayer : player.Agrees books low) :
    (realm.setPlayer low player).Agrees books := by
  refine ⟨hrealm.next, ?_, hrealm.db⟩
  intro other stored hstored
  simp only [Realm.setPlayer, Function.update_apply] at hstored
  split at hstored
  next heq =>
    obtain rfl := Option.some.inj hstored
    exact heq ▸ hplayer
  · exact hrealm.players other stored hstored

include hrealm in
theorem Realm.Agrees.withDb (db : Database) (hdb : db.Agrees books) :
    ({ realm with db := db } : Realm Inventory).Agrees books :=
  ⟨hrealm.next, hrealm.players, hdb⟩

/-! ## Writing mails back -/

variable {db : Database} {row : MailRow} {mail : Mail}

theorem mail_foldl_deleteMailItem (db : Database) (items : List UInt32) :
    (items.foldl Database.deleteMailItem db).mail = db.mail := by
  induction items generalizing db with
  | nil => rfl
  | cons item rest ih => rw [List.foldl_cons, ih]; rfl

theorem mail_foldl_deleteItemInstance {α : Type} (guidOf : α → UInt32) (db : Database)
    (items : List α) :
    (items.foldl (fun db item => db.deleteItemInstance (guidOf item)) db).mail = db.mail := by
  induction items generalizing db with
  | nil => rfl
  | cons item rest ih => rw [List.foldl_cons, ih]; rfl

theorem mail_foldl_saveForReceiver (receiver : UInt32) (db : Database) (items : List Item) :
    (items.foldl (saveForReceiver receiver) db).mail = db.mail := by
  induction items generalizing db with
  | nil => rfl
  | cons item rest ih => rw [List.foldl_cons, ih]; rfl

/-- A row after one mail was written back: an old row, which a changed mail of the same
id overwrites. -/
theorem mem_saveMailRow (hrow : row ∈ (saveMailRow db mail).mail) :
    ∃ old ∈ db.mail, old.id = row.id ∧ old.receiver = row.receiver ∧
      (if mail.state = .changed ∧ mail.messageId = row.id then row.cod = mail.cod.toUInt32
        else row.cod = old.cod) := by
  unfold saveMailRow at hrow
  split at hrow
  next hstate => exact ⟨row, hrow, rfl, rfl, by simp [hstate]⟩
  next hstate =>
    rw [mail_foldl_deleteMailItem] at hrow
    obtain ⟨old, hold, hupdate⟩ := Database.mem_updateMail.mp hrow
    refine ⟨old, hold, ?_⟩
    split at hupdate
    next hid =>
      subst hupdate
      exact ⟨rfl, rfl, by simp [Mail.updateRow, hstate, hid]⟩
    next hid =>
      subst hupdate
      exact ⟨rfl, rfl, by simp [Ne.symm hid]⟩
  next hstate =>
    have hkept : row ∈ ((mail.items.foldl
        (fun db info => db.deleteItemInstance info.itemGuid) db).mail).erase mail.messageId :=
      hrow
    rw [mail_foldl_deleteItemInstance MailItemInfo.itemGuid] at hkept
    exact ⟨row, (Table.mem_erase.mp hkept).1, rfl, rfl, by simp [hstate]⟩

variable {mails : List Mail}

/-- A row after a whole mailbox was written back. -/
theorem mem_foldl_saveMailRow (hrow : row ∈ (mails.foldl saveMailRow db).mail) :
    ∃ old ∈ db.mail, old.id = row.id ∧ old.receiver = row.receiver ∧
      ((∃ mail ∈ mails, mail.state = .changed ∧ mail.messageId = row.id ∧
          row.cod = mail.cod.toUInt32) ∨
        row.cod = old.cod ∧
          ∀ mail ∈ mails, mail.state = .changed → mail.messageId ≠ row.id) := by
  induction mails generalizing db with
  | nil => exact ⟨row, hrow, rfl, rfl, Or.inr ⟨rfl, by simp⟩⟩
  | cons mail rest ih =>
    obtain ⟨middle, hmiddle, hid, hreceiver, hcod⟩ := ih hrow
    obtain ⟨old, hold, hid', hreceiver', hcod'⟩ := mem_saveMailRow hmiddle
    refine ⟨old, hold, hid'.trans hid, hreceiver'.trans hreceiver, ?_⟩
    rcases hcod with ⟨written, hwritten, hrest⟩ | ⟨hcod, hnone⟩
    · exact Or.inl ⟨written, List.mem_cons_of_mem _ hwritten, hrest⟩
    · rw [hid] at hcod'
      split at hcod'
      next hchanged =>
        exact Or.inl ⟨mail, List.mem_cons_self, hchanged.1, hchanged.2, hcod.trans hcod'⟩
      next hchanged =>
        refine Or.inr ⟨hcod.trans hcod', ?_⟩
        intro other hother hstate heq
        rcases List.mem_cons.mp hother with rfl | hother
        · exact hchanged ⟨hstate, heq⟩
        · exact hnone other hother hstate heq

theorem mem_foldl_saveMailRow_of_ne (hrow : row ∈ db.mail)
    (hne : ∀ mail ∈ mails, mail.state ≠ .unchanged → mail.messageId ≠ row.id) :
    row ∈ (mails.foldl saveMailRow db).mail := by
  induction mails generalizing db with
  | nil => exact hrow
  | cons mail rest ih =>
    refine ih ?_ fun other hother => hne other (List.mem_cons_of_mem _ hother)
    have hmail := hne mail List.mem_cons_self
    unfold saveMailRow
    split
    · exact hrow
    next hstate =>
      rw [mail_foldl_deleteMailItem]
      have hid : row.id ≠ mail.messageId := (hmail (by simp [hstate])).symm
      exact Database.mem_updateMail.mpr ⟨row, hrow, if_neg hid⟩
    next hstate =>
      have hid : row.id ≠ mail.messageId := (hmail (by simp [hstate])).symm
      have hkept : row ∈ ((mail.items.foldl
          (fun db info => db.deleteItemInstance info.itemGuid) db).mail).erase
            mail.messageId := by
        rw [mail_foldl_deleteItemInstance MailItemInfo.itemGuid]
        exact Table.mem_erase.mpr ⟨hrow, hid⟩
      exact hkept

/-- A row that agrees with the books, or that the player's next save overwrites. -/
def MailRow.AgreesOnceSaved (books : Books) (player : Player Inventory) (row : MailRow) : Prop :=
  row.id < books.next ∧ books.addressee row.id = row.receiver ∧
    (row.cod.toNat = books.owed row.id ∨
      ∃ mail ∈ player.mails, mail.messageId = row.id ∧ mail.state = .changed)

theorem toNat_toUInt32_of_lt {cod : UInt64} (hcod : cod.toNat < 2 ^ 32) :
    cod.toUInt32.toNat = cod.toNat := by
  rw [UInt64.toNat_toUInt32, Nat.mod_eq_of_lt hcod]

theorem Mail.saved_cod (mail : Mail) : mail.saved.cod = mail.cod := by
  unfold Mail.saved
  split <;> rfl

theorem mem_saveMail {player : Player Inventory} (hmail : mail ∈ (saveMail player db).1.mails) :
    ∃ old ∈ player.mails, old.messageId = mail.messageId ∧ old.cod = mail.cod := by
  unfold saveMail at hmail
  split at hmail
  · obtain ⟨old, hold, rfl⟩ := (Table.mem_map Mail.saved_messageId).mp (Table.mem_filter.mp hmail).1
    exact ⟨old, hold, (old.saved_messageId).symm, (old.saved_cod).symm⟩
  · exact ⟨mail, hmail, rfl, rfl⟩

theorem saveMail_mailsLoaded (player : Player Inventory) (db : Database) :
    (saveMail player db).1.mailsLoaded = player.mailsLoaded := by
  unfold saveMail
  split <;> rfl

theorem saveMail_toCharacter (player : Player Inventory) (db : Database) :
    (saveMail player db).1.toCharacter = player.toCharacter := by
  unfold saveMail
  split <;> rfl

theorem Player.Agrees.saveMail (hplayer : player.Agrees books low) (db : Database) :
    (Mails.saveMail player db).1.Agrees books low := by
  constructor
  · intro mail hmail
    obtain ⟨old, hold, hid, hcod⟩ := mem_saveMail hmail
    exact hid ▸ hcod ▸ hplayer.mails old hold
  · intro mail hmail
    obtain ⟨old, hold, -, -⟩ := mem_saveMail hmail
    rw [saveMail_mailsLoaded]
    exact hplayer.opened old hold

/-- A save brings the table up to date. -/
theorem Database.Agrees.saveMail (hbooks : books.Sound) (hplayer : player.Agrees books low)
    (hrows : ∀ row ∈ db.mail, row.AgreesOnceSaved books player) :
    (Mails.saveMail player db).2.Agrees books := by
  intro row hrow
  unfold Mails.saveMail at hrow
  split at hrow
  · obtain ⟨old, hold, hid, hreceiver, hcod⟩ := mem_foldl_saveMailRow hrow
    obtain ⟨hlt, haddressee, hagrees⟩ := hrows old hold
    rw [hid] at hlt haddressee hagrees
    refine ⟨hlt, haddressee.trans hreceiver, ?_⟩
    rcases hcod with ⟨mail, hmail, -, hmailId, hcod⟩ | ⟨hcod, hnone⟩
    · obtain ⟨-, -, howed⟩ := hplayer.mails mail hmail
      have hsmall := hbooks.small mail.messageId
      rw [hcod, toNat_toUInt32_of_lt (by omega), howed, hmailId]
    · rcases hagrees with hagrees | ⟨mail, hmail, hmailId, hstate⟩
      · rw [hcod, hagrees]
      · exact absurd hmailId (hnone mail hmail hstate)
  next hclosed =>
    obtain ⟨hlt, haddressee, hagrees⟩ := hrows row hrow
    refine ⟨hlt, haddressee, ?_⟩
    rcases hagrees with hagrees | ⟨mail, hmail, -, -⟩
    · exact hagrees
    · exact absurd (hplayer.opened mail hmail) hclosed

theorem Database.Agrees.once_saved (hdb : db.Agrees books) (player : Player Inventory) :
    ∀ row ∈ db.mail, row.AgreesOnceSaved books player := by
  intro row hrow
  obtain ⟨hlt, haddressee, hcod⟩ := hdb row hrow
  exact ⟨hlt, haddressee, Or.inl hcod⟩

theorem Realm.Agrees.commitMail (hbooks : books.Sound) (hnext : realm.mailId = books.next)
    (hothers : ∀ other stored, other ≠ low → realm.players other = some stored →
      stored.Agrees books other)
    (hplayer : player.Agrees books low)
    (hrows : ∀ row ∈ realm.db.mail, row.AgreesOnceSaved books player) :
    (Mails.commitMail realm low player).Agrees books := by
  refine ⟨hnext, ?_, Database.Agrees.saveMail hbooks hplayer hrows⟩
  intro other stored hstored
  simp only [Mails.commitMail, Realm.setPlayer, Function.update_apply] at hstored
  split at hstored
  next heq =>
    obtain rfl := Option.some.inj hstored
    exact heq ▸ hplayer.saveMail realm.db
  next hne => exact hothers other stored hne hstored

/-! ## Sending -/

theorem foldl_addMItem (items : List Item) (player : Player Inventory) :
    ∃ mailItems, items.foldl Player.addMItem player = { player with mailItems := mailItems } := by
  induction items generalizing player with
  | nil => exact ⟨player.mailItems, rfl⟩
  | cons item rest ih =>
    obtain ⟨mailItems, hfold⟩ := ih (player.addMItem item)
    exact ⟨mailItems, hfold⟩

/-- Sending changes one player at most: a receiver with an open mailbox gets the mail and
its items. -/
theorem sendMailTo_players (draft : MailDraft) (realm : Realm Inventory)
    (receiver sender : UInt32) (messageType : MailMessageType) (checked : UInt32)
    (time deliverDelay : Nat) (low : UInt32) :
    let after := draft.sendMailTo realm receiver sender messageType checked time deliverDelay
    let mail := draft.toMail realm.mailId receiver sender messageType checked
      (time + deliverDelay)
    after.players low = realm.players low ∧
        (low = receiver → ∀ player, realm.players low = some player →
          player.mailsLoaded = false) ∨
      low = receiver ∧ ∃ player, realm.players low = some player ∧ player.mailsLoaded = true ∧
        after.players low = some (draft.items.rows.foldl Player.addMItem (player.addMail mail)) := by
  simp only [MailDraft.sendMailTo]
  split
  next habsent =>
    refine Or.inl ⟨rfl, ?_⟩
    rintro rfl player hplayer
    rw [habsent] at hplayer
    cases hplayer
  next player hplayer =>
    split
    next hloaded =>
      by_cases heq : low = receiver
      · subst heq
        exact Or.inr ⟨rfl, player, hplayer, hloaded, by simp [Realm.setPlayer]⟩
      · exact Or.inl ⟨by simp [Realm.setPlayer, heq], fun h => absurd h heq⟩
    next hclosed =>
      refine Or.inl ⟨rfl, ?_⟩
      rintro rfl other hother
      have hsame : some player = some other := hplayer.symm.trans hother
      obtain rfl := Option.some.inj hsame
      simpa using hclosed

variable (draft : MailDraft)

theorem sendMailTo_db (realm : Realm Inventory) (receiver sender : UInt32)
    (messageType : MailMessageType) (checked : UInt32) (time deliverDelay : Nat) :
    (draft.sendMailTo realm receiver sender messageType checked time deliverDelay).db.mail =
      realm.db.mail.insert (draft.toRow realm.mailId receiver sender messageType checked
        (time + deliverDelay)) (Rearrangement.keep MailRow) := by
  simp only [MailDraft.sendMailTo]
  split
  · rfl
  · split <;> rfl

theorem sendMailTo_mailId (realm : Realm Inventory) (receiver sender : UInt32)
    (messageType : MailMessageType) (checked : UInt32) (time deliverDelay : Nat) :
    (draft.sendMailTo realm receiver sender messageType checked time deliverDelay).mailId =
      realm.mailId + 1 := by
  simp only [MailDraft.sendMailTo]
  split
  · rfl
  · split <;> rfl

include hrealm in
theorem Realm.Agrees.sendMailTo (hcod : draft.cod.toNat < 2 ^ 32) (receiver sender : UInt32)
    (messageType : MailMessageType) (checked : UInt32) (time deliverDelay : Nat) :
    (draft.sendMailTo realm receiver sender messageType checked time deliverDelay).Agrees
      (books.post receiver draft.cod.toNat) := by
  refine ⟨?_, ?_, ?_⟩
  · rw [sendMailTo_mailId, hrealm.next]
    rfl
  · intro low player hplayer
    rcases sendMailTo_players draft realm receiver sender messageType checked time deliverDelay
      low with ⟨hsame, -⟩ | ⟨rfl, before, hbefore, hloaded, hafter⟩
    · exact (hrealm.players low player (hsame ▸ hplayer)).post receiver _
    · obtain ⟨mailItems, hfold⟩ := foldl_addMItem draft.items.rows (before.addMail
        (draft.toMail realm.mailId low sender messageType checked (time + deliverDelay)))
      rw [hafter, hfold] at hplayer
      obtain rfl := Option.some.inj hplayer
      constructor
      · intro mail hmail
        rcases Table.mem_insert.mp hmail with rfl | ⟨hold, -⟩
        · have hposted := books.agrees_posted low draft.cod.toNat
          rw [← hrealm.next] at hposted
          exact hposted
        · exact ((hrealm.players low before hbefore).mails mail hold).post low _
      · intro mail hmail
        exact hloaded
  · intro row hrow
    rw [sendMailTo_db] at hrow
    rcases Table.mem_insert.mp hrow with rfl | ⟨hold, -⟩
    · have hposted := books.agrees_posted receiver draft.cod.toNat
      rw [← hrealm.next] at hposted
      simpa only [MailDraft.toRow, toNat_toUInt32_of_lt hcod] using hposted
    · exact (hrealm.db row hold).post receiver _

variable (env : Environment Inventory)

/-- Taking items out of the bags touches neither mailboxes nor the table `mail`. -/
theorem foldl_detachItem (receiver : UInt32) (items : List Item) (player : Player Inventory)
    (db : Database) (draft : MailDraft) :
    ∃ inventory itemInstance attached,
      items.foldl (detachItem env receiver) (player, db, draft) =
        ({ player with inventory := inventory }, { db with itemInstance := itemInstance },
          { draft with items := attached }) := by
  induction items generalizing player db draft with
  | nil => exact ⟨player.inventory, db.itemInstance, draft.items, rfl⟩
  | cons item rest ih =>
    obtain ⟨inventory, itemInstance, attached, hfold⟩ := ih _ _ _
    exact ⟨inventory, itemInstance, attached, hfold⟩

variable (hplayer : realm.players low = some player)

include hrealm hplayer in
theorem Realm.Agrees.acceptSendMail (env : Environment Inventory) (time : Nat)
    (request : SendMailRequest) (hcod : request.cod.toNat < 2 ^ 32) (receiver : UInt32)
    (items : List Item) (d : Int) :
    (Mails.acceptSendMail env realm time low player request receiver items d).Agrees
      (books.post receiver request.cod.toNat) := by
  obtain ⟨inventory, itemInstance, attached, hfold⟩ := foldl_detachItem env receiver items
    { player with money := modifyMoney player.money d } realm.db
    { subject := request.subject, body := request.body }
  have hmails : Player.Agrees books low
      { player with money := modifyMoney player.money d, inventory := inventory } :=
    ⟨(hrealm.players low player hplayer).mails, (hrealm.players low player hplayer).opened⟩
  have hbefore := (hrealm.setPlayer hmails).withDb
    { realm.db with itemInstance := itemInstance } hrealm.db
  let draft : MailDraft := { subject := request.subject, body := request.body, items := attached }
  let charged := (draft.addMoney request.money).addCod request.cod.toUInt32
  have hcharge : charged.cod.toNat = request.cod.toNat := by
    show request.cod.toUInt32.toUInt64.toNat = request.cod.toNat
    rw [UInt32.toNat_toUInt64, toNat_toUInt32_of_lt hcod]
  unfold Mails.acceptSendMail
  simp only [hfold]
  rw [← hcharge]
  exact hbefore.sendMailTo charged (by omega) receiver low .normal _ time _

/-! ## The mailbox -/

variable {after : Player Inventory}

theorem foldl_loadMailedItem (items : List Item) (mail : Mail) (player : Player Inventory)
    (db : Database) :
    ∃ listed mailItems itemRows itemInstance,
      items.foldl (loadMailedItem env) (mail, player, db) =
        ({ mail with items := listed }, { player with mailItems := mailItems },
          { db with mailItems := itemRows, itemInstance := itemInstance }) := by
  induction items generalizing mail player db with
  | nil => exact ⟨mail.items, player.mailItems, db.mailItems, db.itemInstance, rfl⟩
  | cons item rest ih =>
    rw [List.foldl_cons]
    unfold loadMailedItem
    simp only
    split
    · obtain ⟨listed, mailItems, itemRows, itemInstance, hfold⟩ :=
        ih (mail.addItem item) (player.addMItem item) db
      exact ⟨listed, mailItems, itemRows, itemInstance, hfold⟩
    · obtain ⟨listed, mailItems, itemRows, itemInstance, hfold⟩ :=
        ih (mail.addItem item) player
          ((db.deleteMailItem item.guidLow).deleteItemInstance item.guidLow)
      exact ⟨listed, mailItems, itemRows, itemInstance, hfold⟩

/-- Loading the rows of a player keeps the table and fills an agreeing mailbox. -/
theorem foldl_loadMailRow (rows : List MailRow) (player : Player Inventory) (db : Database)
    (hplayer : player.Agrees books low) (hloaded : player.mailsLoaded = true)
    (hrows : ∀ row ∈ rows, books.Agrees row.id low row.cod.toNat) :
    (rows.foldl (loadMailRow env) (player, db)).1.Agrees books low ∧
      (rows.foldl (loadMailRow env) (player, db)).2.mail = db.mail := by
  induction rows generalizing player db with
  | nil => exact ⟨hplayer, rfl⟩
  | cons row rest ih =>
    obtain ⟨listed, mailItems, itemRows, itemInstance, hfold⟩ := foldl_loadMailedItem env
      (if row.hasItems then selectMailItems db row.id else []) (row.toMail env) player db
    have hrow : loadMailRow env (player, db) row =
        (({ player with mailItems := mailItems } : Player Inventory).addMail
            { row.toMail env with items := listed },
          { db with mailItems := itemRows, itemInstance := itemInstance }) := by
      unfold loadMailRow
      simp only [hfold]
    rw [List.foldl_cons, hrow]
    refine ih _ _ ⟨?_, fun _ _ => hloaded⟩ hloaded
      fun other hother => hrows other (List.mem_cons_of_mem _ hother)
    intro mail hmail
    rcases Table.mem_insert.mp hmail with rfl | ⟨hold, -⟩
    · simpa [MailRow.toMail] using hrows row List.mem_cons_self
    · exact hplayer.mails mail hold

theorem mem_selectMail (hrow : row ∈ selectMail db low) : row ∈ db.mail ∧ row.receiver = low := by
  have hfilter := (List.perm_insertionSort _ _).mem_iff.mp hrow
  simpa [Table.mem_def] using hfilter

theorem loadMail_agrees (hrealm : realm.Agrees books) (low : UInt32) (player : Player Inventory) :
    (loadMail env low player realm.db).1.Agrees books low ∧
      (loadMail env low player realm.db).2.Agrees books := by
  have hempty : Player.Agrees books low
      { player with mails := Table.empty, mailsLoaded := true } :=
    ⟨by simp [Table.empty, Table.mem_def], fun _ _ => rfl⟩
  have hload := foldl_loadMailRow env (selectMail realm.db low) _ realm.db hempty rfl ?_
  · refine ⟨hload.1, ?_⟩
    intro row hrow
    exact hrealm.db row (hload.2 ▸ hrow)
  · intro row hrow
    obtain ⟨hmem, hreceiver⟩ := mem_selectMail hrow
    exact hreceiver ▸ hrealm.db row hmem

/-- Rewriting a mail without touching its charge. -/
theorem Player.Agrees.modify (hplayer : player.Agrees books low) (mailId : Nat) (f : Mail → Mail)
    (hid : ∀ mail, (f mail).messageId = mail.messageId) (hcod : ∀ mail, (f mail).cod = mail.cod)
    (hmails : after.mails = player.mails.modify mailId f hid)
    (hloaded : after.mailsLoaded = player.mailsLoaded) : after.Agrees books low := by
  have hold : ∀ mail ∈ after.mails, ∃ old ∈ player.mails,
      old.messageId = mail.messageId ∧ old.cod = mail.cod := by
    intro mail hmail
    rw [hmails] at hmail
    obtain ⟨old, hold, hupdate⟩ := (Table.mem_modify hid).mp hmail
    refine ⟨old, hold, ?_⟩
    split at hupdate <;> subst hupdate
    · exact ⟨(hid old).symm, (hcod old).symm⟩
    · exact ⟨rfl, rfl⟩
  constructor
  · intro mail hmail
    obtain ⟨old, hmem, hidEq, hcodEq⟩ := hold mail hmail
    exact hidEq ▸ hcodEq ▸ hplayer.mails old hmem
  · intro mail hmail
    obtain ⟨old, hmem, -, -⟩ := hold mail hmail
    exact hloaded.trans (hplayer.opened old hmem)

/-- Dropping mails keeps the agreement. -/
theorem Player.Agrees.of_subset (hplayer : player.Agrees books low)
    (hmails : ∀ mail ∈ after.mails, mail ∈ player.mails)
    (hloaded : after.mailsLoaded = player.mailsLoaded) : after.Agrees books low :=
  ⟨fun mail hmail => hplayer.mails mail (hmails mail hmail),
    fun mail hmail => hloaded.trans (hplayer.opened mail (hmails mail hmail))⟩

theorem Database.Agrees.of_subset {after : Database} (hdb : db.Agrees books)
    (hrows : ∀ row ∈ after.mail, row ∈ db.mail) : after.Agrees books :=
  fun row hrow => hdb row (hrows row hrow)

theorem foldl_returnItem (infos : List MailItemInfo) (player : Player Inventory)
    (draft : MailDraft) :
    ∃ mailItems attached, infos.foldl returnItem (player, draft) =
      ({ player with mailItems := mailItems }, { draft with items := attached }) := by
  induction infos generalizing player draft with
  | nil => exact ⟨player.mailItems, draft.items, rfl⟩
  | cons info rest ih =>
    rw [List.foldl_cons]
    unfold returnItem
    simp only
    split
    · obtain ⟨mailItems, attached, hfold⟩ := ih (player.removeMItem info.itemGuid) _
      exact ⟨mailItems, attached, hfold⟩
    · obtain ⟨mailItems, attached, hfold⟩ := ih (player.removeMItem info.itemGuid) draft
      exact ⟨mailItems, attached, hfold⟩

theorem returnDraft_cod (mail : Mail) : (returnDraft mail).cod = 0 := by
  unfold returnDraft
  split <;> rfl

theorem Realm.Agrees.sendReturnToSender (hbooks : books.Sound) (hrealm : realm.Agrees books)
    (env : Environment Inventory) (draft : MailDraft) (hcod : draft.cod = 0)
    (senderAccount sender receiver : UInt32) (time : Nat) :
    ∃ books' : Books, books'.owed = books.owed ∧ books'.Sound ∧
      (draft.sendReturnToSender env realm senderAccount sender receiver time).Agrees books' := by
  unfold MailDraft.sendReturnToSender
  simp only
  split
  · refine ⟨books, rfl, hbooks, hrealm.withDb _ ?_⟩
    intro row hrow
    rw [mail_foldl_deleteItemInstance Item.guidLow] at hrow
    exact hrealm.db row hrow
  · refine ⟨books.post receiver 0, hbooks.owed_post_zero receiver,
      hbooks.post receiver (by decide), ?_⟩
    have hsaved : (draft.items.rows.foldl (saveForReceiver receiver) realm.db).Agrees books := by
      intro row hrow
      rw [mail_foldl_saveForReceiver] at hrow
      exact hrealm.db row hrow
    have hzero : draft.cod.toNat = 0 := by rw [hcod]; rfl
    rw [← hzero]
    exact (hrealm.withDb _ hsaved).sendMailTo draft (by omega) receiver sender .normal
      mailCheckMaskReturned time _

theorem Realm.Agrees.returnMail (hbooks : books.Sound) (hrealm : realm.Agrees books)
    (hplayer : realm.players low = some player) (env : Environment Inventory) (time : Nat)
    (mail : Mail) :
    ∃ books' : Books, books'.owed = books.owed ∧ books'.Sound ∧
      (Mails.returnMail env realm time low player mail).Agrees books' := by
  have hbefore := hrealm.players low player hplayer
  have hdb : ((realm.db.deleteMailById mail.messageId).deleteMailItemById
      mail.messageId).Agrees books :=
    hrealm.db.of_subset fun row hrow => (Table.mem_erase.mp hrow).1
  have hsubset : ∀ other ∈ (player.removeMail mail.messageId).mails, other ∈ player.mails :=
    fun other hother => (Table.mem_erase.mp hother).1
  unfold Mails.returnMail
  simp only
  split
  · obtain ⟨mailItems, attached, hfold⟩ := foldl_returnItem mail.items
      (player.removeMail mail.messageId) (returnDraft mail)
    have hafter : Player.Agrees books low
        { player.removeMail mail.messageId with mailItems := mailItems } :=
      hbefore.of_subset hsubset rfl
    rw [hfold]
    refine Realm.Agrees.sendReturnToSender hbooks ?_ env _ ?_ _ _ _ time
    · exact (hrealm.setPlayer hafter).withDb _ hdb
    · exact returnDraft_cod mail
  · exact ⟨books, rfl, hbooks, (hrealm.setPlayer (hbefore.of_subset hsubset rfl)).withDb _ hdb⟩

/-! ## Taking an item -/

/-- Taking from a mail settles it, in the mailbox and, with the save that follows, in the
table. -/
theorem Realm.Agrees.commitTaken (hbooks : books.Sound) (hrealm : realm.Agrees books)
    (hplayer : realm.players low = some player) (env : Environment Inventory)
    (hmail : mail ∈ player.mails) (itemId : UInt32) (item : Item) (d : Option Int) :
    (Mails.commitMail realm low (takeFrom env player mail.messageId itemId item d)).Agrees
      (books.settle mail.messageId) := by
  have hbefore := hrealm.players low player hplayer
  obtain ⟨hlt, haddressee, -⟩ := hbefore.mails mail hmail
  refine Realm.Agrees.commitMail (hbooks.settle _) hrealm.next ?_ ?_ ?_
  · -- No other mailbox holds the mail.
    intro other stored hne hstored
    have hother := hrealm.players other stored hstored
    refine ⟨fun held hheld => (hother.mails held hheld).settle ?_, hother.opened⟩
    intro heq
    obtain ⟨-, howner, -⟩ := hother.mails held hheld
    rw [heq, haddressee] at howner
    exact hne howner.symm
  · constructor
    · intro after hafter
      obtain ⟨old, hold, hupdate⟩ := mem_takeFrom.mp hafter
      split at hupdate
      next hid =>
        subst hupdate
        refine ⟨?_, ?_, ?_⟩
        · exact (hbefore.mails old hold).1
        · exact (hbefore.mails old hold).2.1
        · simp [Mail.taken, Mail.removeItem, Books.settle, hid]
      next hid =>
        subst hupdate
        exact (hbefore.mails old hold).settle hid
    · intro after hafter
      exact hbefore.opened mail hmail
  · intro row hrow
    obtain ⟨hrowLt, hrowAddressee, hcod⟩ := hrealm.db row hrow
    refine ⟨hrowLt, hrowAddressee, ?_⟩
    by_cases hid : row.id = mail.messageId
    · refine Or.inr ⟨mail.taken itemId, ?_, hid.symm, rfl⟩
      exact mem_takeFrom.mpr ⟨mail, hmail, if_pos rfl⟩
    · exact Or.inl (by simpa [Books.settle, Function.update_of_ne hid] using hcod)

theorem Realm.Agrees.payCod (hbooks : books.Sound) (hrealm : realm.Agrees books)
    (env : Environment Inventory) (time : Nat) (mail : Mail) :
    ∃ books' : Books, books'.owed = books.owed ∧ books'.Sound ∧
      (Mails.payCod env realm time mail).Agrees books' := by
  unfold Mails.payCod
  split
  · exact ⟨books.post mail.sender 0, hbooks.owed_post_zero _, hbooks.post _ (by decide),
      hrealm.sendMailTo ({ subject := mail.subject, body := "" : MailDraft }.addMoney mail.cod)
        (show 0 < 2 ^ 32 by decide) _ _ _ _ _ _⟩
  · exact ⟨books, rfl, hbooks, hrealm⟩

/-- The payer keeps his purse and his mails while the payment is sent, even to himself. -/
theorem payCod_players (hnext : ∀ mail ∈ player.mails, mail.messageId < realm.mailId)
    (hplayer : realm.players low = some player) (env : Environment Inventory) (time : Nat)
    (mail : Mail) :
    ∃ after, (payCod env realm time mail).players low = some after ∧
      after.toCharacter = player.toCharacter ∧ after.mailsLoaded = player.mailsLoaded ∧
      (∀ held ∈ player.mails, held ∈ after.mails) ∧
      ∀ held ∈ after.mails, held ∈ player.mails ∨
        held.messageId = realm.mailId ∧ held.state = .unchanged := by
  unfold payCod
  split
  · rcases sendMailTo_players
      ({ subject := mail.subject, body := "" : MailDraft }.addMoney mail.cod) realm mail.sender
      mail.receiver .normal mailCheckMaskCodPayment time 0 low with
      ⟨hsame, -⟩ | ⟨-, before, hbefore, -, hafter⟩
    · exact ⟨player, hsame.trans hplayer, rfl, rfl, fun _ h => h, fun _ h => Or.inl h⟩
    · obtain rfl := Option.some.inj (hplayer.symm.trans hbefore)
      refine ⟨_, hafter, rfl, rfl, ?_, ?_⟩
      · intro held hheld
        refine Table.mem_insert.mpr (Or.inr ⟨hheld, ?_⟩)
        exact Nat.ne_of_lt (hnext held hheld)
      · intro held hheld
        rcases Table.mem_insert.mp hheld with rfl | ⟨hold, -⟩
        · exact Or.inr ⟨rfl, rfl⟩
        · exact Or.inl hold
  · exact ⟨player, hplayer, rfl, rfl, fun _ h => h, fun _ h => Or.inl h⟩

theorem Realm.Agrees.takeItem (hbooks : books.Sound) (hrealm : realm.Agrees books)
    (hplayer : realm.players low = some player) (env : Environment Inventory) (time : Nat)
    (hmail : mail ∈ player.mails) (itemId : UInt32) (item : Item) {after : Realm Inventory}
    (htake : Mails.takeItem env realm time low player mail itemId item = some after) :
    ∃ books' : Books, books'.owed = (books.settle mail.messageId).owed ∧ books'.Sound ∧
      after.Agrees books' := by
  unfold Mails.takeItem at htake
  split at htake
  · obtain rfl := Option.some.inj htake
    exact ⟨books.settle mail.messageId, rfl, hbooks.settle _,
      hrealm.commitTaken hbooks hplayer env hmail itemId item none⟩
  · obtain ⟨d, -, hafter⟩ := Option.bind_eq_some_iff.mp htake
    obtain rfl := Option.some.inj hafter
    have hnext : ∀ held ∈ player.mails, held.messageId < realm.mailId := fun held hheld =>
      hrealm.next ▸ ((hrealm.players low player hplayer).mails held hheld).1
    obtain ⟨paid, hpaid, hsound, hagrees⟩ := hrealm.payCod hbooks env time mail
    obtain ⟨payer, hpayer, -, -, hkept, -⟩ := payCod_players hnext hplayer env time mail
    refine ⟨paid.settle mail.messageId, ?_, hsound.settle _, ?_⟩
    · unfold Books.settle
      rw [hpaid]
    · rw [hpayer, Option.getD_some]
      exact hagrees.commitTaken hsound hpayer env (hkept mail hmail) itemId item (some d)

/-- Every handler but the two below leaves what is owed as it is. -/
theorem Realm.Agrees.handleMailTakeMoney (hbooks : books.Sound) (hrealm : realm.Agrees books)
    (hplayer : realm.players low = some player) (circumstances : Circumstances) (mailId : Nat)
    (money : UInt64) :
    (Mails.handleMailTakeMoney realm circumstances low player mailId money).realm.Agrees
      books := by
  have hbefore := hrealm.players low player hplayer
  unfold Mails.handleMailTakeMoney
  split
  · exact hrealm
  · split
    · exact hrealm
    · split
      · exact hrealm
      · split
        · exact hrealm
        · refine Realm.Agrees.commitMail hbooks hrealm.next
            (fun other stored _ hstored => hrealm.players other stored hstored) ?_
            (hrealm.db.once_saved _)
          exact hbefore.modify mailId Mail.emptied (fun _ => rfl) (fun _ => rfl) rfl rfl

variable (circumstances : Circumstances)

include hrealm hplayer in
theorem Realm.Agrees.handleMailMarkAsRead (mailId : Nat) :
    (Mails.handleMailMarkAsRead realm circumstances low player mailId).realm.Agrees books := by
  unfold Mails.handleMailMarkAsRead
  split
  · exact hrealm
  · split
    · exact hrealm
    · exact hrealm.setPlayer ((hrealm.players low player hplayer).modify mailId
        Mail.markedAsRead (fun _ => rfl) (fun _ => rfl) rfl rfl)

include hrealm hplayer in
theorem Realm.Agrees.handleMailDelete (mailId : Nat) :
    (Mails.handleMailDelete realm low player mailId).realm.Agrees books := by
  have hbefore := hrealm.players low player hplayer
  unfold Mails.handleMailDelete
  simp only
  split
  · exact hrealm.setPlayer (hbefore.of_subset (fun _ hmail => hmail) rfl)
  · split
    · exact hrealm.setPlayer (hbefore.of_subset (fun _ hmail => hmail) rfl)
    · exact hrealm.setPlayer (hbefore.modify mailId Mail.markedAsDeleted (fun _ => rfl)
        (fun _ => rfl) rfl rfl)

include hrealm in
theorem Realm.Agrees.handleGetMailList :
    (Mails.handleGetMailList env realm circumstances low player).realm.Agrees books := by
  unfold Mails.handleGetMailList
  split
  · exact hrealm
  · obtain ⟨hloaded, hdb⟩ := loadMail_agrees env hrealm low player
    exact (hrealm.setPlayer hloaded).withDb _ hdb

end Bookkeeping

end MopServer.Mails
