import MopServer.Foundation.Shelf
import MopServer.Mails.CashOnDelivery

/-! # Money in the mail

Money goes from a purse into a mail and from the mail into another purse.  What a character
owns is the money in his purse and the money in his mails: in the mailbox if it is open,
else in the table `mail`.
-/

namespace MopServer.Mails

open MopServer.Foundation

variable {Inventory : Type}

instance fintypeUInt32 : Fintype UInt32 :=
  Fintype.ofEquiv (Fin (2 ^ 32)) ⟨UInt32.ofFin, UInt32.toFin, fun _ => rfl, fun _ => rfl⟩

def Mail.holding (mail : Mail) : Nat := if mail.state = .deleted then 0 else mail.money.toNat

def Database.holding (db : Database) (low : UInt32) : Nat :=
  db.mail.sum fun row => if row.receiver = low then row.money.toNat else 0

variable (realm : Realm Inventory)

/-- The money in the mails of a character. -/
def Realm.held (low : UInt32) : Nat :=
  match realm.players low with
  | none => realm.db.holding low
  | some player =>
    if player.mailsLoaded then player.mails.sum Mail.holding else realm.db.holding low

def Realm.purse (low : UInt32) : Nat :=
  (realm.players low).elim 0 fun player => player.money.toNat

/-- All money in purses and mails. -/
def Realm.money : Nat :=
  ∑ low, (realm.purse low + realm.held low)

/-! ## Requests that move money -/

inductive Transfer where
  | send (request : SendMailRequest)
  | take (mailId : Nat) (money : UInt64)
  deriving DecidableEq, Repr

structure TransferRequest where
  low : UInt32
  circumstances : Circumstances
  transfer : Transfer
  deriving DecidableEq, Repr

def TransferRequest.toEvent (request : TransferRequest) : Event Inventory :=
  .request request.low request.circumstances <| match request.transfer with
    | .send request => .sendMail request
    | .take mailId money => .takeMoney mailId money

/-- The realm, and the postage that has been paid. -/
structure Ledger (Inventory : Type) where
  realm : Realm Inventory
  spent : Nat

def Ledger.total (ledger : Ledger Inventory) : Nat := ledger.realm.money + ledger.spent

variable (env : Environment Inventory)

def spentOn (realm : Realm Inventory) (request : TransferRequest) : Nat :=
  match realm.players request.low, request.transfer with
  | some player, .send mail =>
    match checkSendMail env realm request.circumstances request.low player mail with
    | .ok _ => (postage mail).toNat
    | .error _ => 0
  | _, _ => 0

/-- Handle a request and enter the postage; nothing is known after undefined behaviour. -/
def ledgerStep : Option (Ledger Inventory) → TransferRequest → Option (Ledger Inventory)
  | none, _ => none
  | some ledger, request => (perform env ledger.realm request.toEvent).map fun outcome =>
    ⟨outcome.realm, ledger.spent + spentOn env ledger.realm request⟩

variable (state : Option (Ledger Inventory))

/-- The request neither makes money appear nor disappear. -/
def KeepsTotal (request : TransferRequest) : Prop :=
  ∃ before after, state = some before ∧ ledgerStep env state request = some after ∧
    after.total = before.total

/-- A mail that is sent is paid for by the purse, and a mail that is emptied by a request for
nothing is empty. -/
def Exact (request : TransferRequest) : Prop :=
  ∀ ledger player, state = some ledger → ledger.realm.players request.low = some player →
    match request.transfer with
    | .send mail =>
      ∀ accepted, checkSendMail env ledger.realm request.circumstances request.low player mail =
        .ok accepted → (postage mail).toNat + mail.money.toNat ≤ player.money.toNat
    | .take mailId money =>
      request.circumstances.atMailbox = true →
        ∀ mail, availableMail player mailId request.circumstances.time = some mail →
          money = 0 → mail.money = 0

/-- Ids from the next one on are unused. -/
structure Realm.Numbered (realm : Realm Inventory) : Prop where
  numbered : ∀ row ∈ realm.db.mail, row.id < realm.mailId
  boxed : ∀ low player, realm.players low = some player →
    ∀ mail ∈ player.mails, mail.messageId < realm.mailId

/-- All purses and mails are within the gold limit, and the mails in a mailbox are in the
table as mails of the same receiver. -/
structure Realm.Filed (realm : Realm Inventory) : Prop extends realm.Numbered where
  purses : ∀ low player, realm.players low = some player → player.money.toNat ≤ maxMoneyAmount
  amounts : ∀ low player, realm.players low = some player →
    ∀ mail ∈ player.mails, mail.money.toNat ≤ maxMoneyAmount
  opened : ∀ low player, realm.players low = some player →
    ∀ mail ∈ player.mails, player.mailsLoaded = true
  addressed : ∀ low player, realm.players low = some player →
    ∀ mail ∈ player.mails, ∀ row ∈ realm.db.mail, row.id = mail.messageId → row.receiver = low

section

variable {realm : Realm Inventory} {low : UInt32} {player : Player Inventory}

/-! ## Writing mails back -/

variable {db : Database} {other : UInt32} {mail : Mail}

theorem holding_saved (mail : Mail) : mail.saved.holding = mail.holding := by
  unfold Mail.saved Mail.holding
  split <;> simp_all

/-- A save keeps the money in the mailbox. -/
theorem holding_saveMail (player : Player Inventory) (db : Database) :
    (saveMail player db).1.mails.sum Mail.holding = player.mails.sum Mail.holding := by
  unfold saveMail
  split
  · have hmap : (player.mails.map Mail.saved Mail.saved_messageId).sum Mail.holding =
        player.mails.sum Mail.holding := Table.sum_map holding_saved
    rw [← hmap]
    refine Table.sum_map_filter_of_zero fun mail _ hdeleted => ?_
    exact if_pos (by simpa using hdeleted)
  · rfl

theorem holding_saveMailRow (hne : other ≠ low)
    (haddressed : ∀ row ∈ db.mail, row.id = mail.messageId → row.receiver = low) :
    (saveMailRow db mail).holding other = db.holding other := by
  unfold saveMailRow Database.holding
  split
  · rfl
  · rw [mail_foldl_deleteMailItem]
    refine Table.sum_modify_of_eq (f := mail.updateRow) (fun _ => rfl) fun row hrow hid => ?_
    have hreceiver : row.receiver ≠ other := by
      rw [haddressed row hrow hid]
      exact hne.symm
    rw [if_neg hreceiver]
    exact if_neg hreceiver
  · have hmail : ((((mail.items.foldl (fun db info => db.deleteItemInstance info.itemGuid)
        db).deleteMailById mail.messageId).deleteMailItemById mail.messageId)).mail =
          db.mail.erase mail.messageId := by
      rw [← mail_foldl_deleteItemInstance MailItemInfo.itemGuid db mail.items]
      rfl
    rw [hmail]
    refine Table.sum_erase_of_zero fun row hrow hid => if_neg ?_
    rw [haddressed row hrow hid]
    exact hne.symm

/-- Writing a mailbox back leaves the rows of other receivers alone. -/
theorem holding_foldl_saveMailRow {mails : List Mail} (hne : other ≠ low)
    (haddressed : ∀ mail ∈ mails, ∀ row ∈ db.mail, row.id = mail.messageId → row.receiver = low) :
    (mails.foldl saveMailRow db).holding other = db.holding other := by
  induction mails generalizing db with
  | nil => rfl
  | cons mail rest ih =>
    rw [List.foldl_cons, ih, holding_saveMailRow hne (haddressed mail List.mem_cons_self)]
    intro next hnext row hrow hid
    obtain ⟨old, hold, hid', hreceiver, -⟩ := mem_saveMailRow hrow
    rw [← hreceiver]
    exact haddressed next (List.mem_cons_of_mem mail hnext) old hold (hid'.trans hid)

theorem holding_saveMail_of_ne (hne : other ≠ low)
    (haddressed : ∀ mail ∈ player.mails, ∀ row ∈ db.mail, row.id = mail.messageId →
      row.receiver = low) : (saveMail player db).2.holding other = db.holding other := by
  unfold saveMail
  split
  · exact holding_foldl_saveMailRow hne haddressed
  · rfl

/-! ## Taking money -/

variable {after : Player Inventory} {purse : UInt64}

theorem commitMail_players_of_ne (realm : Realm Inventory) (player : Player Inventory)
    (hne : other ≠ low) : (commitMail realm low player).players other = realm.players other :=
  Function.update_of_ne hne _ _

theorem commitMail_players_self (realm : Realm Inventory) (low : UInt32)
    (player : Player Inventory) :
    (commitMail realm low player).players low = some (saveMail player realm.db).1 :=
  Function.update_self _ _ _

/-- Committing a changed mailbox changes what its owner has. -/
theorem money_commitMail (hplayer : realm.players low = some player)
    (hopen : player.mailsLoaded = true) (hopen' : after.mailsLoaded = true)
    (haddressed : ∀ mail ∈ after.mails, ∀ row ∈ realm.db.mail, row.id = mail.messageId →
      row.receiver = low) :
    (commitMail realm low after).money + (player.money.toNat + player.mails.sum Mail.holding) =
      realm.money + (after.money.toNat + after.mails.sum Mail.holding) := by
  have hself : (commitMail realm low after).players low = some (saveMail after realm.db).1 :=
    commitMail_players_self realm low after
  have hpurse : (saveMail after realm.db).1.money = after.money :=
    congrArg Character.money (saveMail_toCharacter after realm.db)
  have hbefore : realm.purse low + realm.held low =
      player.money.toNat + player.mails.sum Mail.holding := by
    simp only [Realm.purse, Realm.held, hplayer, Option.elim_some, hopen, if_true]
  have hafter : (commitMail realm low after).purse low + (commitMail realm low after).held low =
      after.money.toNat + after.mails.sum Mail.holding := by
    simp only [Realm.purse, Realm.held, hself, Option.elim_some, saveMail_mailsLoaded, hopen',
      if_true, hpurse, holding_saveMail]
  have hoff : ∀ other, other ≠ low → (commitMail realm low after).purse other +
      (commitMail realm low after).held other = realm.purse other + realm.held other := by
    intro other hne
    have hsame := commitMail_players_of_ne realm after hne
    have hrows : (commitMail realm low after).db.holding other = realm.db.holding other :=
      holding_saveMail_of_ne hne haddressed
    simp only [Realm.purse, Realm.held, hsame, hrows]
  rw [← hbefore, ← hafter]
  exact sum_add_of_eq_off hoff

theorem mem_mails_saveMail (hmail : mail ∈ (saveMail player db).1.mails) :
    ∃ old ∈ player.mails, old.messageId = mail.messageId ∧ old.money = mail.money := by
  unfold saveMail at hmail
  split at hmail
  · obtain ⟨old, hold, rfl⟩ := (Table.mem_map Mail.saved_messageId).mp (Table.mem_filter.mp hmail).1
    refine ⟨old, hold, (old.saved_messageId).symm, ?_⟩
    unfold Mail.saved
    split <;> rfl
  · exact ⟨mail, hmail, rfl, rfl⟩

theorem mem_mail_saveMail {row : MailRow} (hrow : row ∈ (saveMail player db).2.mail) :
    ∃ old ∈ db.mail, old.id = row.id ∧ old.receiver = row.receiver := by
  unfold saveMail at hrow
  split at hrow
  · obtain ⟨old, hold, hid, hreceiver, -⟩ := mem_foldl_saveMailRow hrow
    exact ⟨old, hold, hid, hreceiver⟩
  · exact ⟨row, hrow, rfl, rfl⟩

theorem filed_commitMail (hfiled : realm.Filed) (hplayer : realm.players low = some player)
    (hmoney : after.money.toNat ≤ maxMoneyAmount) (hopen : after.mailsLoaded = player.mailsLoaded)
    (hmails : ∀ mail ∈ after.mails, ∃ old ∈ player.mails, old.messageId = mail.messageId ∧
      mail.money.toNat ≤ old.money.toNat) : (commitMail realm low after).Filed := by
  have hplayers : ∀ other stored, (commitMail realm low after).players other = some stored →
      (other = low ∧ stored = (saveMail after realm.db).1) ∨
        realm.players other = some stored := by
    intro other stored hstored
    by_cases heq : other = low
    · subst heq
      rw [commitMail_players_self] at hstored
      exact Or.inl ⟨rfl, (Option.some.inj hstored).symm⟩
    · rw [commitMail_players_of_ne realm after heq] at hstored
      exact Or.inr hstored
  have hrow : ∀ row ∈ (commitMail realm low after).db.mail,
      ∃ old ∈ realm.db.mail, old.id = row.id ∧ old.receiver = row.receiver :=
    fun _ hrow => mem_mail_saveMail hrow
  have hmail : ∀ mail ∈ (saveMail after realm.db).1.mails, ∃ old ∈ player.mails,
      old.messageId = mail.messageId ∧ mail.money.toNat ≤ old.money.toNat := by
    intro mail hmail
    obtain ⟨middle, hmiddle, hid, hamount⟩ := mem_mails_saveMail hmail
    obtain ⟨old, hold, hid', hamount'⟩ := hmails middle hmiddle
    exact ⟨old, hold, hid'.trans hid, hamount ▸ hamount'⟩
  refine ⟨⟨?_, ?_⟩, ?_, ?_, ?_, ?_⟩
  · intro row hmem
    obtain ⟨old, hold, hid, -⟩ := hrow row hmem
    exact hid ▸ hfiled.numbered old hold
  · intro other stored hstored mail hmem
    rcases hplayers other stored hstored with ⟨-, rfl⟩ | hstored
    · obtain ⟨old, hold, hid, -⟩ := hmail mail hmem
      exact hid ▸ hfiled.boxed low player hplayer old hold
    · exact hfiled.boxed other stored hstored mail hmem
  · intro other stored hstored
    rcases hplayers other stored hstored with ⟨-, rfl⟩ | hstored
    · rw [congrArg Character.money (saveMail_toCharacter after realm.db)]
      exact hmoney
    · exact hfiled.purses other stored hstored
  · intro other stored hstored mail hmem
    rcases hplayers other stored hstored with ⟨-, rfl⟩ | hstored
    · obtain ⟨old, hold, -, hamount⟩ := hmail mail hmem
      exact hamount.trans (hfiled.amounts low player hplayer old hold)
    · exact hfiled.amounts other stored hstored mail hmem
  · intro other stored hstored mail hmem
    rcases hplayers other stored hstored with ⟨-, rfl⟩ | hstored
    · obtain ⟨old, hold, -, -⟩ := hmail mail hmem
      rw [saveMail_mailsLoaded, hopen]
      exact hfiled.opened low player hplayer old hold
    · exact hfiled.opened other stored hstored mail hmem
  · intro other stored hstored mail hmem row hmemRow hrowId
    obtain ⟨oldRow, holdRow, hid, hreceiver⟩ := hrow row hmemRow
    rw [← hreceiver]
    rcases hplayers other stored hstored with ⟨rfl, rfl⟩ | hstored
    · obtain ⟨old, hold, hid', -⟩ := hmail mail hmem
      exact hfiled.addressed other player hplayer old hold oldRow holdRow
        (hid.trans (hrowId.trans hid'.symm))
    · exact hfiled.addressed other stored hstored mail hmem oldRow holdRow (hid.trans hrowId)

theorem key_emptied (mail : Mail) : Keyed.key mail.emptied = Keyed.key mail := rfl

def collected (player : Player Inventory) (mailId : Nat) (purse : UInt64) : Player Inventory :=
  { player with
    money := purse
    mails := player.mails.modify mailId Mail.emptied key_emptied
    mailsUpdated := true }

/-- What `ModifyMoney` makes of the purse. -/
def credited (purse money : UInt64) : UInt64 := modifyMoney purse (Int.bmod money.toNat (2 ^ 64))

theorem handleMailTakeMoney_cases (realm : Realm Inventory) (circumstances : Circumstances)
    (low : UInt32) (player : Player Inventory) (mailId : Nat) (money : UInt64) :
    (∃ mail, circumstances.atMailbox = true ∧
      availableMail player mailId circumstances.time = some mail ∧
      (0 < money → mail.money = money) ∧ (player.money + money).toNat ≤ maxMoneyAmount ∧
      (handleMailTakeMoney realm circumstances low player mailId money).realm =
        commitMail realm low (collected player mailId (credited player.money money))) ∨
    (handleMailTakeMoney realm circumstances low player mailId money).realm = realm ∧
      (circumstances.atMailbox = true →
        ∀ mail, availableMail player mailId circumstances.time = some mail →
          0 < money ∨ maxMoneyAmount < player.money.toNat) := by
  unfold handleMailTakeMoney
  split
  next hbox =>
    refine Or.inr ⟨rfl, fun hat => ?_⟩
    rw [hat] at hbox
    cases hbox
  next hbox =>
    split
    next hnone =>
      refine Or.inr ⟨rfl, fun _ mail hmail => ?_⟩
      rw [hnone] at hmail
      cases hmail
    next mail hmail =>
      split
      next hamount =>
        have hpos : 0 < money := by
          simp only [Bool.and_eq_true, decide_eq_true_eq] at hamount
          exact hamount.1
        exact Or.inr ⟨rfl, fun _ _ _ => Or.inl hpos⟩
      next hamount =>
        split
        next hlimit =>
          refine Or.inr ⟨rfl, fun _ _ _ => ?_⟩
          by_cases hzero : money = 0
          · rw [hzero, UInt64.add_zero] at hlimit
            exact Or.inr hlimit
          · exact Or.inl (UInt64.pos_iff_ne_zero.mpr hzero)
        next hlimit =>
          refine Or.inl ⟨mail, by simpa using hbox, hmail, ?_, Nat.le_of_not_lt hlimit, rfl⟩
          intro hpos
          by_contra hne
          exact hamount (by simp [hpos, hne])

theorem mem_collected {mailId : Nat} :
    mail ∈ (collected player mailId purse).mails ↔ ∃ old ∈ player.mails,
      (if old.messageId = mailId then old.emptied else old) = mail :=
  Table.mem_modify (f := Mail.emptied) fun _ => rfl

theorem toNat_credited {money : UInt64} (hpurse : purse.toNat ≤ maxMoneyAmount)
    (hmoney : money.toNat ≤ maxMoneyAmount) (hlimit : (purse + money).toNat ≤ maxMoneyAmount) :
    (credited purse money).toNat = purse.toNat + money.toNat ∧
      (credited purse money).toNat ≤ maxMoneyAmount := by
  have hbmod : Int.bmod money.toNat (2 ^ 64) = money.toNat := by
    unfold maxMoneyAmount at hmoney
    rw [Int.bmod_def]
    split <;> omega
  have hsum : purse.toNat + money.toNat < 2 ^ 64 := by
    unfold maxMoneyAmount at hpurse hmoney
    omega
  rw [UInt64.toNat_add, Nat.mod_eq_of_lt hsum] at hlimit
  unfold credited
  rw [hbmod, toNat_modifyMoney_credit hlimit]
  exact ⟨rfl, hlimit⟩

section Taking

variable {mail : Mail} {money : UInt64} (hfiled : realm.Filed)
  (hplayer : realm.players low = some player)
  (hmail : availableMail player mailId time = some mail) (hmoney : 0 < money → mail.money = money)
  (hlimit : (player.money + money).toNat ≤ maxMoneyAmount)

include hfiled hplayer hmail hmoney hlimit

theorem purse_credited :
    (credited player.money money).toNat = player.money.toNat + money.toNat ∧
      (credited player.money money).toNat ≤ maxMoneyAmount := by
  refine toNat_credited (hfiled.purses low player hplayer) ?_ hlimit
  by_cases hzero : money = 0
  · rw [hzero, UInt64.toNat_zero]
    exact Nat.zero_le _
  · rw [← hmoney (UInt64.pos_iff_ne_zero.mpr hzero)]
    exact hfiled.amounts low player hplayer mail (mem_of_availableMail hmail).1

end Taking

/-- Emptying a mail takes what was in it out of the mailbox. -/
theorem money_collected (hfiled : realm.Filed) (hplayer : realm.players low = some player)
    {mailId time : Nat} (hmail : availableMail player mailId time = some mail) (purse : UInt64) :
    (commitMail realm low (collected player mailId purse)).money +
      (player.money.toNat + mail.money.toNat) = realm.money + purse.toNat := by
  obtain ⟨hmem, rfl⟩ := mem_of_availableMail hmail
  have hopen := hfiled.opened low player hplayer mail hmem
  have haddressed : ∀ other ∈ (collected player mail.messageId purse).mails,
      ∀ row ∈ realm.db.mail, row.id = other.messageId → row.receiver = low := by
    intro other hother row hrow hid
    obtain ⟨old, hold, hsame⟩ := mem_collected.mp hother
    refine hfiled.addressed low player hplayer old hold row hrow (hid.trans ?_)
    rw [← hsame]
    split <;> rfl
  have hopen' : (collected player mail.messageId purse).mailsLoaded = true := hopen
  have hcommit := money_commitMail hplayer hopen hopen' haddressed
  have hbox := Table.sum_modify hmem Mail.emptied (fun _ => rfl) Mail.holding
  have hstate : mail.state ≠ .deleted := by
    have htest := (Option.filter_eq_some_iff.mp hmail).2
    simp only [Bool.and_eq_true, decide_eq_true_eq] at htest
    exact htest.1
  have hholding : mail.holding = mail.money.toNat := if_neg hstate
  have hempty : mail.emptied.holding = 0 := rfl
  have hafter : (collected player mail.messageId purse).mails =
    player.mails.modify (Keyed.key mail) Mail.emptied := rfl
  have hpurse : (collected player mail.messageId purse).money = purse := rfl
  rw [hafter, hpurse] at hcommit
  omega

theorem filed_collected (hfiled : realm.Filed) (hplayer : realm.players low = some player)
    (mailId : Nat) (hpurse : purse.toNat ≤ maxMoneyAmount) :
    (commitMail realm low (collected player mailId purse)).Filed := by
  refine filed_commitMail hfiled hplayer hpurse rfl fun other hother => ?_
  obtain ⟨old, hold, rfl⟩ := mem_collected.mp hother
  refine ⟨old, hold, ?_⟩
  split
  · exact ⟨rfl, Nat.zero_le _⟩
  · exact ⟨rfl, Nat.le_refl _⟩

/-! ## Sending -/

variable {request : SendMailRequest} (env : Environment Inventory)

theorem money_sendMailTo (hnumbered : realm.Numbered) (draft : MailDraft) (receiver sender : UInt32)
    (messageType : MailMessageType) (checked : UInt32) (time deliverDelay : Nat) :
    (draft.sendMailTo realm receiver sender messageType checked time deliverDelay).money =
      realm.money + draft.money.toNat := by
  have hplayers := sendMailTo_players draft realm receiver sender messageType checked time
    deliverDelay
  have hdb := sendMailTo_db draft realm receiver sender messageType checked time deliverDelay
  generalize draft.sendMailTo realm receiver sender messageType checked time deliverDelay =
    after at hplayers hdb ⊢
  have hunused : realm.db.mail.get? realm.mailId = none :=
    Table.get?_eq_none_iff.mpr fun row hrow => Nat.ne_of_lt (hnumbered.numbered row hrow)
  have hrows (low : UInt32) : after.db.holding low =
      realm.db.holding low + if receiver = low then draft.money.toNat else 0 := by
    unfold Database.holding
    rw [hdb]
    exact Table.sum_insert hunused _ _
  have hoff : ∀ low, low ≠ receiver →
      after.purse low + after.held low = realm.purse low + realm.held low := by
    intro low hne
    have hsame : after.players low = realm.players low := by
      rcases hplayers low with ⟨hsame, -⟩ | ⟨heq, -⟩
      · exact hsame
      · exact absurd heq hne
    have hholding := hrows low
    rw [if_neg (Ne.symm hne), Nat.add_zero] at hholding
    simp only [Realm.purse, Realm.held, hsame, hholding]
  have hreceiver : after.purse receiver + after.held receiver =
      realm.purse receiver + realm.held receiver + draft.money.toNat := by
    have hholding := hrows receiver
    rw [if_pos rfl] at hholding
    rcases hplayers receiver with ⟨hsame, hclosed⟩ | ⟨-, player, hplayer, hloaded, hafter⟩
    · simp only [Realm.purse, Realm.held, hsame, hholding]
      cases hplayer : realm.players receiver with
      | none => simp only [Option.elim_none, Nat.zero_add]
      | some player =>
        simp only [Option.elim_some, hclosed rfl player hplayer, Bool.false_eq_true, if_false]
        omega
    · obtain ⟨mailItems, hfold⟩ := foldl_addMItem draft.items.rows (player.addMail
        (draft.toMail realm.mailId receiver sender messageType checked (time + deliverDelay)))
      rw [hfold] at hafter
      have hfresh : player.mails.get? realm.mailId = none :=
        Table.get?_eq_none_iff.mpr fun mail hmail =>
          Nat.ne_of_lt (hnumbered.boxed receiver player hplayer mail hmail)
      have hbox : (player.mails.insert (draft.toMail realm.mailId receiver sender messageType
          checked (time + deliverDelay)) (Rearrangement.keep Mail)).sum Mail.holding =
            player.mails.sum Mail.holding + draft.money.toNat := Table.sum_insert hfresh _ _
      simp only [Realm.purse, Realm.held, hafter, hplayer, Option.elim_some, Player.addMail,
        hloaded, if_true, hbox]
      omega
  have hsum := sum_add_of_eq_off hoff
  have hmoney : after.money + (realm.purse receiver + realm.held receiver) =
    realm.money + (after.purse receiver + after.held receiver) := hsum
  omega

theorem filed_sendMailTo (hfiled : realm.Filed) {draft : MailDraft}
    (hmoney : draft.money.toNat ≤ maxMoneyAmount) (receiver sender : UInt32)
    (messageType : MailMessageType) (checked : UInt32) (time deliverDelay : Nat) :
    (draft.sendMailTo realm receiver sender messageType checked time deliverDelay).Filed := by
  have hplayers := sendMailTo_players draft realm receiver sender messageType checked time
    deliverDelay
  have hdb := sendMailTo_db draft realm receiver sender messageType checked time deliverDelay
  have hnext := sendMailTo_mailId draft realm receiver sender messageType checked time deliverDelay
  generalize draft.sendMailTo realm receiver sender messageType checked time deliverDelay =
    after at hplayers hdb hnext ⊢
  -- Every player after the mail has been sent was there before; one of them has the new mail.
  have hstored : ∀ low player, after.players low = some player →
      ∃ before, realm.players low = some before ∧ player.money = before.money ∧
        player.mailsLoaded = before.mailsLoaded ∧
        ∀ mail ∈ player.mails, mail ∈ before.mails ∨
          low = receiver ∧ before.mailsLoaded = true ∧ mail.messageId = realm.mailId ∧
            mail.money = draft.money := by
    intro low player hplayer
    rcases hplayers low with ⟨hsame, -⟩ | ⟨heq, before, hbefore, hloaded, hafter⟩
    · exact ⟨player, hsame ▸ hplayer, rfl, rfl, fun mail hmail => Or.inl hmail⟩
    · obtain ⟨mailItems, hfold⟩ := foldl_addMItem draft.items.rows (before.addMail
        (draft.toMail realm.mailId receiver sender messageType checked (time + deliverDelay)))
      rw [hafter, hfold] at hplayer
      obtain rfl := Option.some.inj hplayer
      refine ⟨before, hbefore, rfl, rfl, fun mail hmail => ?_⟩
      rcases Table.mem_insert.mp hmail with rfl | ⟨hold, -⟩
      · exact Or.inr ⟨heq, hloaded, rfl, rfl⟩
      · exact Or.inl hold
  have hrow : ∀ row ∈ after.db.mail, row ∈ realm.db.mail ∨
      row.id = realm.mailId ∧ row.receiver = receiver := by
    intro row hrow
    rw [hdb] at hrow
    rcases Table.mem_insert.mp hrow with rfl | ⟨hold, -⟩
    · exact Or.inr ⟨rfl, rfl⟩
    · exact Or.inl hold
  refine ⟨⟨?_, ?_⟩, ?_, ?_, ?_, ?_⟩
  · intro row hmem
    rw [hnext]
    rcases hrow row hmem with hold | ⟨hid, -⟩
    · exact Nat.lt_succ_of_lt (hfiled.numbered row hold)
    · exact hid ▸ Nat.lt_succ_self _
  · intro low player hplayer mail hmail
    obtain ⟨before, hbefore, -, -, hmails⟩ := hstored low player hplayer
    rw [hnext]
    rcases hmails mail hmail with hold | ⟨-, -, hid, -⟩
    · exact Nat.lt_succ_of_lt (hfiled.boxed low before hbefore mail hold)
    · exact hid ▸ Nat.lt_succ_self _
  · intro low player hplayer
    obtain ⟨before, hbefore, hpurse, -⟩ := hstored low player hplayer
    exact hpurse ▸ hfiled.purses low before hbefore
  · intro low player hplayer mail hmail
    obtain ⟨before, hbefore, -, -, hmails⟩ := hstored low player hplayer
    rcases hmails mail hmail with hold | ⟨-, -, -, hamount⟩
    · exact hfiled.amounts low before hbefore mail hold
    · exact hamount ▸ hmoney
  · intro low player hplayer mail hmail
    obtain ⟨before, hbefore, -, hopen, hmails⟩ := hstored low player hplayer
    rw [hopen]
    rcases hmails mail hmail with hold | ⟨-, hloaded, -⟩
    · exact hfiled.opened low before hbefore mail hold
    · exact hloaded
  · intro low player hplayer mail hmail row hmem hid
    obtain ⟨before, hbefore, -, -, hmails⟩ := hstored low player hplayer
    rcases hmails mail hmail with hold | ⟨rfl, -, hnew, -⟩
    · rcases hrow row hmem with hrow | ⟨hnew, -⟩
      · exact hfiled.addressed low before hbefore mail hold row hrow hid
      · have hlt := hfiled.boxed low before hbefore mail hold
        omega
    · rcases hrow row hmem with hrow | ⟨-, hreceiver⟩
      · have hlt := hfiled.numbered row hrow
        omega
      · exact hreceiver

def Player.refit (player : Player Inventory) (purse : UInt64) (inventory : Inventory) :
    Player Inventory :=
  { player with money := purse, inventory := inventory }

def Realm.charge (realm : Realm Inventory) (low : UInt32) (sender : Player Inventory)
    (itemInstance : UInt32 → Option Item) : Realm Inventory :=
  { realm.setPlayer low sender with db := { realm.db with itemInstance := itemInstance } }

theorem charge_players (realm : Realm Inventory) (low : UInt32) (sender : Player Inventory)
    (itemInstance : UInt32 → Option Item) :
    (realm.charge low sender itemInstance).players =
      Function.update realm.players low (some sender) := rfl

theorem money_charge (hplayer : realm.players low = some player) (purse : UInt64)
    (inventory : Inventory) (itemInstance : UInt32 → Option Item) :
    (realm.charge low (player.refit purse inventory) itemInstance).money + player.money.toNat =
      realm.money + purse.toNat := by
  have hplayers := charge_players realm low (player.refit purse inventory) itemInstance
  have hrows (other : UInt32) : (realm.charge low (player.refit purse inventory)
    itemInstance).db.holding other = realm.db.holding other := rfl
  generalize realm.charge low (player.refit purse inventory) itemInstance = after
    at hplayers hrows ⊢
  have hoff : ∀ other, other ≠ low →
      after.purse other + after.held other = realm.purse other + realm.held other := by
    intro other hne
    have hsame : after.players other = realm.players other := by
      rw [hplayers]
      exact Function.update_of_ne hne _ _
    simp only [Realm.purse, Realm.held, hsame, hrows]
  have hself : after.players low = some (player.refit purse inventory) := by
    rw [hplayers]
    exact Function.update_self _ _ _
  have hsum : after.money + (realm.purse low + realm.held low) =
    realm.money + (after.purse low + after.held low) := sum_add_of_eq_off hoff
  simp only [Realm.purse, Realm.held, hself, hplayer, hrows, Option.elim_some, Player.refit] at hsum
  omega

theorem numbered_charge (hnumbered : realm.Numbered) (hplayer : realm.players low = some player)
    (purse : UInt64) (inventory : Inventory) (itemInstance : UInt32 → Option Item) :
    (realm.charge low (player.refit purse inventory) itemInstance).Numbered := by
  refine ⟨hnumbered.numbered, ?_⟩
  intro other stored hstored mail hmail
  rw [charge_players, update_eq_some_iff] at hstored
  rcases hstored with ⟨rfl, hstored⟩ | ⟨-, hstored⟩
  · obtain rfl := Option.some.inj hstored
    exact hnumbered.boxed other player hplayer mail hmail
  · exact hnumbered.boxed other stored hstored mail hmail

theorem filed_charge (hfiled : realm.Filed) (hplayer : realm.players low = some player)
    (hpurse : purse.toNat ≤ maxMoneyAmount) (inventory : Inventory)
    (itemInstance : UInt32 → Option Item) :
    (realm.charge low (player.refit purse inventory) itemInstance).Filed := by
  have hstored : ∀ other stored,
      (realm.charge low (player.refit purse inventory) itemInstance).players other = some stored →
        ∃ before, realm.players other = some before ∧ stored.mails = before.mails ∧
          stored.mailsLoaded = before.mailsLoaded ∧ stored.money.toNat ≤ maxMoneyAmount := by
    intro other stored hstored
    rw [charge_players, update_eq_some_iff] at hstored
    rcases hstored with ⟨rfl, hstored⟩ | ⟨-, hstored⟩
    · obtain rfl := Option.some.inj hstored
      exact ⟨player, hplayer, rfl, rfl, hpurse⟩
    · exact ⟨stored, hstored, rfl, rfl, hfiled.purses other stored hstored⟩
  refine ⟨numbered_charge hfiled.toNumbered hplayer purse inventory itemInstance, ?_, ?_, ?_, ?_⟩
  · intro other stored hplayer
    obtain ⟨-, -, -, -, hmoney⟩ := hstored other stored hplayer
    exact hmoney
  · intro other stored hplayer mail hmail
    obtain ⟨before, hbefore, hmails, -⟩ := hstored other stored hplayer
    exact hfiled.amounts other before hbefore mail (hmails ▸ hmail)
  · intro other stored hplayer mail hmail
    obtain ⟨before, hbefore, hmails, hopen, -⟩ := hstored other stored hplayer
    rw [hopen]
    exact hfiled.opened other before hbefore mail (hmails ▸ hmail)
  · intro other stored hplayer mail hmail
    obtain ⟨before, hbefore, hmails, -⟩ := hstored other stored hplayer
    exact hfiled.addressed other before hbefore mail (hmails ▸ hmail)

theorem acceptSendMail_eq (realm : Realm Inventory) (time : Nat) (low : UInt32)
    (player : Player Inventory) (request : SendMailRequest) (receiver : UInt32) (items : List Item)
    (d : Int) :
    ∃ (inventory : Inventory) (itemInstance : UInt32 → Option Item) (draft : MailDraft)
      (checked : UInt32) (delay : Nat), draft.money = request.money ∧
      acceptSendMail env realm time low player request receiver items d =
        draft.sendMailTo (realm.charge low
          (player.refit (modifyMoney player.money d) inventory) itemInstance)
          receiver low .normal checked time delay := by
  obtain ⟨inventory, itemInstance, attached, hfold⟩ := foldl_detachItem env receiver items
    { player with money := modifyMoney player.money d } realm.db
    { subject := request.subject, body := request.body }
  let draft : MailDraft := { subject := request.subject, body := request.body, items := attached }
  refine ⟨inventory, itemInstance,
    (draft.addMoney request.money).addCod request.cod.toUInt32,
    if request.body.isEmpty then mailCheckMaskCopied else mailCheckMaskHasBody,
    if needItemDelay realm player (receiverAccount env realm receiver) receiver items then
      env.mailDeliveryDelay else 0, rfl, ?_⟩
  unfold acceptSendMail
  simp only [hfold]
  rfl

theorem money_acceptSendMail (hnumbered : realm.Numbered)
    (hplayer : realm.players low = some player) (env : Environment Inventory) (time : Nat)
    (request : SendMailRequest) (receiver : UInt32) (items : List Item) (d : Int) :
    (acceptSendMail env realm time low player request receiver items d).money +
        player.money.toNat =
      realm.money + (modifyMoney player.money d).toNat + request.money.toNat := by
  obtain ⟨inventory, itemInstance, draft, checked, delay, hdraft, heq⟩ :=
    acceptSendMail_eq env realm time low player request receiver items d
  have hcharge := money_charge hplayer (modifyMoney player.money d) inventory itemInstance
  have hsend := money_sendMailTo
    (numbered_charge hnumbered hplayer (modifyMoney player.money d) inventory itemInstance)
    draft receiver low .normal checked time delay
  rw [heq]
  rw [hdraft] at hsend
  omega

theorem filed_acceptSendMail (hfiled : realm.Filed) (hplayer : realm.players low = some player)
    (env : Environment Inventory) (time : Nat) (receiver : UInt32) (items : List Item) {d : Int}
    (hpurse : (modifyMoney player.money d).toNat ≤ maxMoneyAmount)
    (hmoney : request.money.toNat ≤ maxMoneyAmount) :
    (acceptSendMail env realm time low player request receiver items d).Filed := by
  obtain ⟨inventory, itemInstance, draft, checked, delay, hdraft, heq⟩ :=
    acceptSendMail_eq env realm time low player request receiver items d
  rw [heq]
  exact filed_sendMailTo (filed_charge hfiled hplayer hpurse inventory itemInstance)
    (hdraft ▸ hmoney) receiver low .normal checked time delay

theorem charge_exact (hpurse : purse.toNat ≤ maxMoneyAmount)
    (hcovered : (postage request).toNat + request.money.toNat ≤ purse.toNat) :
    ∃ d, negSigned 64 (requiredMoney request).toNat = some d ∧
      (modifyMoney purse d).toNat + ((postage request).toNat + request.money.toNat) =
        purse.toNat := by
  have hlimit : purse.toNat < 2 ^ 63 := by
    unfold maxMoneyAmount at hpurse
    omega
  have hrequired : (requiredMoney request).toNat =
      (postage request).toNat + request.money.toNat := by
    unfold requiredMoney
    rw [UInt64.toNat_add, Nat.mod_eq_of_lt (by omega)]
  rw [hrequired]
  exact ⟨_, negSigned_of_lt (by decide) (by omega), toNat_modifyMoney_debit hpurse hcovered⟩

/-! ## Conservation -/

variable {ledger : Ledger Inventory}

/-- A request keeps the total if and only if it is exact, and then all mails stay filed. -/
def Settles (env : Environment Inventory) (ledger : Ledger Inventory)
    (request : TransferRequest) : Prop :=
  (KeepsTotal env (some ledger) request ↔ Exact env (some ledger) request) ∧
    (Exact env (some ledger) request →
      ∃ after, ledgerStep env (some ledger) request = some after ∧ after.realm.Filed)

theorem settles_of_same {env : Environment Inventory} {request : TransferRequest}
    (hfiled : ledger.realm.Filed) {outcome : Outcome Inventory}
    (hperform : perform env ledger.realm request.toEvent = some outcome)
    (hrealm : outcome.realm = ledger.realm) (hspent : spentOn env ledger.realm request = 0)
    (hexact : Exact env (some ledger) request) : Settles env ledger request := by
  have hstep : ledgerStep env (some ledger) request = some ⟨ledger.realm, ledger.spent⟩ := by
    simp only [ledgerStep, hperform, Option.map_some, hrealm, hspent, Nat.add_zero]
  refine ⟨⟨fun _ => hexact, fun _ => ⟨ledger, _, rfl, hstep, rfl⟩⟩, fun _ => ?_⟩
  exact ⟨_, hstep, hfiled⟩

theorem settles_take (hfiled : ledger.realm.Filed)
    (hplayer : ledger.realm.players low = some player) (circumstances : Circumstances)
    (mailId : Nat) (money : UInt64) :
    Settles env ledger ⟨low, circumstances, .take mailId money⟩ := by
  have hperform : perform env ledger.realm
      (TransferRequest.toEvent ⟨low, circumstances, .take mailId money⟩) =
        some (handleMailTakeMoney ledger.realm circumstances low player mailId money) := by
    simp only [TransferRequest.toEvent, perform, hplayer, handle]
  have hspent : spentOn env ledger.realm ⟨low, circumstances, .take mailId money⟩ = 0 := by
    simp only [spentOn, hplayer]
  have hexact : Exact env (some ledger) ⟨low, circumstances, .take mailId money⟩ ↔
      (circumstances.atMailbox = true →
        ∀ mail, availableMail player mailId circumstances.time = some mail →
          money = 0 → mail.money = 0) := by
    constructor
    · exact fun hexact => hexact ledger player rfl hplayer
    · intro hexact ledger' player' hledger hplayer'
      obtain rfl := Option.some.inj hledger
      obtain rfl := Option.some.inj (hplayer.symm.trans hplayer')
      exact hexact
  rcases handleMailTakeMoney_cases ledger.realm circumstances low player mailId money with
    ⟨mail, hbox, hmail, hmoney, hlimit, hrealm⟩ | ⟨hrealm, hrefused⟩
  · have hpurse := purse_credited hfiled hplayer hmail hmoney hlimit
    have htotal := money_collected hfiled hplayer hmail (credited player.money money)
    have hstep : ledgerStep env (some ledger) ⟨low, circumstances, .take mailId money⟩ =
        some ⟨commitMail ledger.realm low
          (collected player mailId (credited player.money money)), ledger.spent⟩ := by
      simp only [ledgerStep, hperform, Option.map_some, hrealm, hspent, Nat.add_zero]
    have hamounts : (circumstances.atMailbox = true →
        ∀ mail, availableMail player mailId circumstances.time = some mail →
          money = 0 → mail.money = 0) ↔ mail.money = money := by
      constructor
      · intro hexact
        by_cases hzero : money = 0
        · rw [hexact hbox mail hmail hzero, hzero]
        · exact hmoney (UInt64.pos_iff_ne_zero.mpr hzero)
      · intro heq _ other hother hzero
        obtain rfl := Option.some.inj (hmail.symm.trans hother)
        exact heq.trans hzero
    unfold Settles
    rw [hexact, hamounts]
    refine ⟨⟨?_, ?_⟩, fun _ => ⟨_, hstep, filed_collected hfiled hplayer mailId hpurse.2⟩⟩
    · rintro ⟨before, after, hbefore, hafter, heq⟩
      obtain rfl := Option.some.inj hbefore
      obtain rfl := Option.some.inj (hstep.symm.trans hafter)
      unfold Ledger.total at heq
      simp only at heq
      exact UInt64.toNat_inj.mp (by omega)
    · rintro rfl
      refine ⟨ledger, _, rfl, hstep, ?_⟩
      unfold Ledger.total
      simp only
      omega
  · refine settles_of_same hfiled hperform hrealm hspent (hexact.mpr ?_)
    intro hbox mail hmail hzero
    rcases hrefused hbox mail hmail with hpos | hfull
    · rw [hzero] at hpos
      exact absurd hpos (by decide)
    · exact absurd hfull (Nat.not_lt.mpr (hfiled.purses low player hplayer))

theorem settles_send (hfiled : ledger.realm.Filed)
    (hplayer : ledger.realm.players low = some player) (circumstances : Circumstances)
    (mail : SendMailRequest) : Settles env ledger ⟨low, circumstances, .send mail⟩ := by
  have hpurse := hfiled.purses low player hplayer
  have hperform : perform env ledger.realm
      (TransferRequest.toEvent ⟨low, circumstances, .send mail⟩) =
        handleSendMail env ledger.realm circumstances low player mail := by
    simp only [TransferRequest.toEvent, perform, hplayer, handle]
  have hexact : Exact env (some ledger) ⟨low, circumstances, .send mail⟩ ↔
      ∀ accepted, checkSendMail env ledger.realm circumstances low player mail = .ok accepted →
        (postage mail).toNat + mail.money.toNat ≤ player.money.toNat := by
    constructor
    · exact fun hexact => hexact ledger player rfl hplayer
    · intro hexact ledger' player' hledger hplayer'
      obtain rfl := Option.some.inj hledger
      obtain rfl := Option.some.inj (hplayer.symm.trans hplayer')
      exact hexact
  cases hcheck : checkSendMail env ledger.realm circumstances low player mail with
  | error refusal =>
    have hrefused : handleSendMail env ledger.realm circumstances low player mail =
        some { realm := ledger.realm
               result := some ⟨0, .send, refusal.1, refusal.2, 0, 0⟩ } := by
      unfold handleSendMail
      rw [hcheck]
    refine settles_of_same hfiled (hperform.trans hrefused) rfl ?_ (hexact.mpr ?_)
    · simp only [spentOn, hplayer, hcheck]
    · intro accepted haccepted
      rw [hcheck] at haccepted
      cases haccepted
  | ok accepted =>
    obtain ⟨receiver, items⟩ := accepted
    have hstep : ledgerStep env (some ledger) ⟨low, circumstances, .send mail⟩ =
        (negSigned 64 (requiredMoney mail).toNat).map fun d =>
          ⟨acceptSendMail env ledger.realm circumstances.time low player mail receiver items d,
            ledger.spent + (postage mail).toNat⟩ := by
      have hspent : spentOn env ledger.realm ⟨low, circumstances, .send mail⟩ =
          (postage mail).toNat := by
        simp only [spentOn, hplayer, hcheck]
      simp only [ledgerStep, hperform, handleSendMail, hcheck, hspent]
      cases negSigned 64 (requiredMoney mail).toNat <;> rfl
    have hcovered : (∀ accepted, checkSendMail env ledger.realm circumstances low player mail =
        .ok accepted → (postage mail).toNat + mail.money.toNat ≤ player.money.toNat) ↔
          (postage mail).toNat + mail.money.toNat ≤ player.money.toNat :=
      ⟨fun hall => hall _ hcheck, fun hcovered _ _ => hcovered⟩
    have htotal := money_acceptSendMail hfiled.toNumbered hplayer env circumstances.time mail
      receiver items
    unfold Settles
    rw [hexact, hcovered, hstep]
    refine ⟨⟨?_, ?_⟩, ?_⟩
    · rintro ⟨before, after, hbefore, hafter, heq⟩
      obtain rfl := Option.some.inj hbefore
      rw [hstep] at hafter
      obtain ⟨d, -, rfl⟩ := Option.map_eq_some_iff.mp hafter
      have hmoney := htotal d
      unfold Ledger.total at heq
      simp only at heq
      omega
    · intro hcovered
      obtain ⟨d, hd, hcharge⟩ := charge_exact hpurse hcovered
      have hmoney := htotal d
      refine ⟨ledger, _, rfl, by rw [hstep, hd]; rfl, ?_⟩
      unfold Ledger.total
      simp only
      omega
    · intro hcovered
      obtain ⟨d, hd, hcharge⟩ := charge_exact hpurse hcovered
      refine ⟨_, by rw [hd]; rfl, ?_⟩
      exact filed_acceptSendMail hfiled hplayer env circumstances.time receiver items
        (by omega) (by omega)

theorem settles_transfer (hfiled : ledger.realm.Filed) (request : TransferRequest) :
    Settles env ledger request := by
  obtain ⟨low, circumstances, transfer⟩ := request
  cases hplayer : ledger.realm.players low with
  | none =>
    have hperform : perform env ledger.realm
        (TransferRequest.toEvent ⟨low, circumstances, transfer⟩) =
          some { realm := ledger.realm } := by
      simp only [TransferRequest.toEvent, perform, hplayer]
    refine settles_of_same hfiled hperform rfl ?_ ?_
    · simp only [spentOn, hplayer]
    · intro ledger' player hledger hplayer'
      obtain rfl := Option.some.inj hledger
      exact absurd (hplayer.symm.trans hplayer') (by simp)
  | some player =>
    cases transfer with
    | send mail => exact settles_send env hfiled hplayer circumstances mail
    | take mailId money => exact settles_take env hfiled hplayer circumstances mailId money

/-- Along every run of requests the money in purses and mails and the postage that has been
paid stay the same in total, if and only if every mail that is accepted is covered by the
purse of its sender, and no mail with money in it is emptied by a request for nothing. -/
theorem mail_money_conserved_iff_exact (env : Environment Inventory) (ledger : Ledger Inventory)
    (hfiled : ledger.realm.Filed) (requests : List TransferRequest) :
    Along (ledgerStep env) (KeepsTotal env) (some ledger) requests ↔
      Along (ledgerStep env) (Exact env) (some ledger) requests := by
  refine along_iff_of_invariant (ledgerStep env)
    (fun state => ∃ ledger : Ledger Inventory, state = some ledger ∧ ledger.realm.Filed) ?_ ?_
    (some ledger) requests ⟨ledger, rfl, hfiled⟩
  · rintro _ request ⟨ledger, rfl, hfiled⟩ hexact
    obtain ⟨after, hafter, hfiled'⟩ := (settles_transfer env hfiled request).2 hexact
    exact ⟨after, hafter, hfiled'⟩
  · rintro _ request ⟨ledger, rfl, hfiled⟩
    exact (settles_transfer env hfiled request).1

end

/-! ## Two players and a letter -/

/-- Thrall with 1000 copper and Jaina at their mailboxes. -/
def twoPurses : Ledger (List Item) := ⟨twoPlayers.realm, 0⟩

def sendMoney (money : UInt64) : TransferRequest :=
  ⟨1, atTheMailbox, .send ⟨"Jaina", "", "", money, 0, []⟩⟩

/-- Jaina asks for money from the first mail. -/
def askMoney (money : UInt64) : TransferRequest := ⟨2, atTheMailbox, .take 1 money⟩

theorem filed_twoPurses : twoPurses.realm.Filed := by
  have hmails : ∀ low player, twoPurses.realm.players low = some player →
      player.mails.rows = [] ∧ player.money.toNat ≤ maxMoneyAmount := by
    intro low player hplayer
    simp only [twoPurses, twoPlayers] at hplayer
    split at hplayer
    · obtain rfl := Option.some.inj hplayer
      exact ⟨rfl, by decide⟩
    · split at hplayer
      · obtain rfl := Option.some.inj hplayer
        exact ⟨rfl, by decide⟩
      · cases hplayer
  have hnone : ∀ low player, twoPurses.realm.players low = some player →
      ∀ mail, mail ∉ player.mails := by
    intro low player hplayer mail hmail
    have hrows : mail ∈ player.mails.rows := hmail
    rw [(hmails low player hplayer).1] at hrows
    cases hrows
  have hrow : ∀ row, row ∉ twoPurses.realm.db.mail := fun _ => List.not_mem_nil
  exact {
    numbered := fun row hmem => absurd hmem (hrow row)
    boxed := fun low player hplayer mail hmail => absurd hmail (hnone low player hplayer mail)
    purses := fun low player hplayer => (hmails low player hplayer).2
    amounts := fun low player hplayer mail hmail => absurd hmail (hnone low player hplayer mail)
    opened := fun low player hplayer mail hmail => absurd hmail (hnone low player hplayer mail)
    addressed := fun low player hplayer mail hmail =>
      absurd hmail (hnone low player hplayer mail) }

theorem exact_sendMoney_hundred :
    Exact listEnvironment (some twoPurses) (sendMoney 100) := by
  intro ledger player hledger hplayer
  obtain rfl := Option.some.inj hledger
  obtain rfl : onlinePlayer 1000 [plainItem 7] = player := Option.some.inj hplayer
  intro _ _
  decide

/-- A hundred copper arrive. -/
theorem mail_money_conserved_letter :
    Along (ledgerStep listEnvironment) (KeepsTotal listEnvironment) (some twoPurses)
        [sendMoney 100, askMoney 100] ∧ (postage ⟨"Jaina", "", "", 100, 0, []⟩).toNat = 30 := by
  refine ⟨?_, rfl⟩
  refine (mail_money_conserved_iff_exact listEnvironment twoPurses filed_twoPurses
    [sendMoney 100, askMoney 100]).mpr ⟨exact_sendMoney_hundred, ?_, trivial⟩
  intro ledger player _ _ _ mail _ hzero
  exact absurd hzero (by decide)

/-- The money in the first mail of Jaina, if she can take it. -/
def letterMoney (state : Option (Ledger (List Item))) : Option UInt64 := do
  let ledger ← state
  let player ← ledger.realm.players 2
  let mail ← availableMail player 1 atTheMailbox.time
  some mail.money

/-- Thrall sends 30 copper less than 2⁶⁴ with 1000 copper in his purse: with the postage the
sum is zero.  Jaina asks for nothing, and loses the hundred copper in her mail. -/
theorem mail_money_not_conserved :
    ¬ Along (ledgerStep listEnvironment) (KeepsTotal listEnvironment) (some twoPurses)
        [sendMoney 18446744073709551586] ∧
      ¬ Along (ledgerStep listEnvironment) (KeepsTotal listEnvironment) (some twoPurses)
        [sendMoney 100, askMoney 0] := by
  constructor
  · rintro ⟨hkeeps, -⟩
    have hexact := (settles_transfer listEnvironment filed_twoPurses _).1.mp hkeeps
    have hcovered := hexact twoPurses (onlinePlayer 1000 [plainItem 7]) rfl rfl
    have haccepted : checkSendMail listEnvironment twoPurses.realm atTheMailbox 1
        (onlinePlayer 1000 [plainItem 7]) ⟨"Jaina", "", "", 18446744073709551586, 0, []⟩ =
          .ok (2, []) := by decide +kernel
    exact absurd (hcovered _ haccepted) (by decide)
  · rintro ⟨-, hkeeps, -⟩
    obtain ⟨after, hafter, hfiled⟩ :=
      (settles_transfer listEnvironment filed_twoPurses _).2 exact_sendMoney_hundred
    have hletter : letterMoney (ledgerStep listEnvironment (some twoPurses) (sendMoney 100)) =
        some 100 := by decide +kernel
    rw [hafter] at hkeeps hletter
    have hexact := (settles_transfer listEnvironment hfiled _).1.mp hkeeps
    obtain ⟨player, hplayer, hletter⟩ := Option.bind_eq_some_iff.mp hletter
    obtain ⟨mail, hmail, hmoney⟩ := Option.bind_eq_some_iff.mp hletter
    have hzero : mail.money = 0 := hexact after player rfl hplayer rfl mail hmail rfl
    have hhundred : mail.money = 100 := Option.some.inj hmoney
    rw [hzero] at hhundred
    exact absurd hhundred (by decide)

end MopServer.Mails
