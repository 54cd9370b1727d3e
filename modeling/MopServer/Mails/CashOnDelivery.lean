import MopServer.Foundation.Run
import MopServer.Mails.Books

/-! # Cash on delivery

The charge a sender enters is a 64-bit number.  It is cut to 32 bits in the draft and
in the table, and negated as a signed 32-bit number when the receiver pays.  As long
as only charges below the sign bit are entered, every request to take an item charges
exactly what the sender entered.
-/

namespace MopServer.Mails

open MopServer.Foundation

variable {Inventory : Type}

/-! ## Runs -/

/-- A realm together with what senders have entered and nobody has paid. -/
structure Audit (Inventory : Type) where
  realm : Realm Inventory
  owed : Nat → Nat

variable (audit : Audit Inventory)

/-- A mail that is sent enters the charge its sender asked for, under the id it gets;
taking an item settles the mail it is taken from. -/
def record (event : Event Inventory) (outcome : Outcome Inventory) : Nat → Nat :=
  match event with
  | .request _ _ (.sendMail request) =>
    if audit.realm.mailId < outcome.realm.mailId then
      Function.update audit.owed audit.realm.mailId request.cod.toNat
    else audit.owed
  | .request _ _ (.takeItem mailId _) =>
    if outcome.stored.isSome then Function.update audit.owed mailId 0 else audit.owed
  | _ => audit.owed

variable (env : Environment Inventory)

/-- One event, with `none` for a realm whose behaviour has become undefined. -/
def auditStep : Option (Audit Inventory) → Event Inventory → Option (Audit Inventory)
  | none, _ => none
  | some audit, event =>
    (perform env audit.realm event).map fun outcome =>
      ⟨outcome.realm, record audit event outcome⟩

/-- Every copy of every mail asks for what is owed on it, less than the sign bit. -/
def Audit.Consistent : Prop :=
  ∃ books : Books, books.owed = audit.owed ∧ books.Sound ∧ audit.realm.Agrees books

/-- The mail with the given id, to the given receiver, carries an amount of money, in the
table and in the receiver's open mailbox. -/
structure Realm.Carries (realm : Realm Inventory) (mailId : Nat) (receiver : UInt32)
    (amount : Nat) : Prop where
  row : ∃ row ∈ realm.db.mail,
    row.id = mailId ∧ row.receiver = receiver ∧ row.money.toNat = amount
  box : ∀ player, realm.players receiver = some player → player.mailsLoaded = true →
    ∃ mail ∈ player.mails, mail.messageId = mailId ∧ mail.money.toNat = amount

/-- A request to take an item either leaves the purse alone, or takes exactly what is owed
on the mail and sends exactly that to an existing sender. -/
def ChargedExactly (audit : Audit Inventory) (low : UInt32) (player : Player Inventory)
    (mailId : Nat) (outcome : Outcome Inventory) : Prop :=
  ∃ after, outcome.realm.players low = some after ∧
    (outcome.stored = none → after.money = player.money) ∧
    (outcome.stored.isSome → after.money.toNat + audit.owed mailId = player.money.toNat ∧
      ∀ mail, player.getMail mailId = some mail → 0 < audit.owed mailId →
        senderExists env audit.realm mail.sender →
          outcome.realm.Carries audit.realm.mailId mail.sender (audit.owed mailId))

def ExactCharge : Option (Audit Inventory) → Event Inventory → Prop
  | none, _ => False
  | some audit, .request low circumstances (.takeItem mailId itemId) =>
    ∀ player, audit.realm.players low = some player →
      ∃ outcome, handleMailTakeItem env audit.realm circumstances low player mailId itemId =
          some outcome ∧
        ChargedExactly env audit low player mailId outcome
  | some _, _ => True

/-- Accepted mails ask for less than the sign bit of a 32-bit number, and the money sent
along can be negated. -/
def BelowSignBit : Option (Audit Inventory) → Event Inventory → Prop
  | some audit, .request low circumstances (.sendMail request) =>
    ∀ player, audit.realm.players low = some player →
      (checkSendMail env audit.realm circumstances low player request).toBool = true →
        request.cod.toNat < 2 ^ 31 ∧ (requiredMoney request).toNat ≠ 2 ^ 63
  | _, _ => True

/-! ## One payment -/

variable (env : Environment Inventory)

section Payment

variable {books : Books} {realm : Realm Inventory} {low : UInt32} {player : Player Inventory}

theorem payCod_carries (time : Nat) (mail : Mail)
    (hsender : senderExists env realm mail.sender = true) :
    (payCod env realm time mail).Carries realm.mailId mail.sender mail.cod.toNat := by
  unfold payCod
  rw [if_pos hsender]
  constructor
  · rw [sendMailTo_db]
    exact ⟨_, Table.mem_insert.mpr (Or.inl rfl), rfl, rfl, rfl⟩
  · intro after hafter hloaded
    rcases sendMailTo_players
      ({ subject := mail.subject, body := "" : MailDraft }.addMoney mail.cod) realm mail.sender
      mail.receiver .normal mailCheckMaskCodPayment time 0 mail.sender with
      ⟨hsame, hclosed⟩ | ⟨-, before, -, -, hgiven⟩
    · have hopen := hclosed rfl after (hsame.symm.trans hafter)
      rw [hloaded] at hopen
      cases hopen
    · obtain rfl := Option.some.inj (hafter.symm.trans hgiven)
      exact ⟨_, Table.mem_insert.mpr (Or.inl rfl), rfl, rfl⟩

/-- A mail that nobody is about to change survives a save. -/
theorem Realm.Carries.commitMail {mailId : Nat} {receiver : UInt32} {amount : Nat}
    (hcarries : realm.Carries mailId receiver amount)
    (hkept : ∀ mail ∈ player.mails, mail.state ≠ .unchanged → mail.messageId ≠ mailId)
    (hown : receiver = low → player.mailsLoaded = true → ∃ mail ∈ player.mails,
      mail.messageId = mailId ∧ mail.money.toNat = amount ∧ mail.state = .unchanged) :
    (Mails.commitMail realm low player).Carries mailId receiver amount := by
  constructor
  · obtain ⟨row, hrow, hid, hreceiver, hmoney⟩ := hcarries.row
    refine ⟨row, ?_, hid, hreceiver, hmoney⟩
    show row ∈ (saveMail player realm.db).2.mail
    unfold saveMail
    split
    · exact mem_foldl_saveMailRow_of_ne hrow
        fun mail hmail hstate => hid ▸ hkept mail hmail hstate
    · exact hrow
  · intro after hafter hloaded
    simp only [Mails.commitMail, Realm.setPlayer, Function.update_apply] at hafter
    split at hafter
    next heq =>
      obtain rfl := Option.some.inj hafter
      rw [saveMail_mailsLoaded] at hloaded
      obtain ⟨mail, hmail, hid, hmoney, hstate⟩ := hown heq hloaded
      refine ⟨mail, ?_, hid, hmoney⟩
      unfold saveMail
      rw [if_pos hloaded]
      refine Table.mem_filter.mpr ⟨(Table.mem_map Mail.saved_messageId).mpr ?_, ?_⟩
      · exact ⟨mail, hmail, by simp [Mail.saved, hstate]⟩
      · simp [hstate]
    · exact hcarries.box after hafter hloaded

theorem commitMail_players (realm : Realm Inventory) (low : UInt32) (player : Player Inventory) :
    ∃ after, (commitMail realm low player).players low = some after ∧
      after.toCharacter = player.toCharacter :=
  ⟨(saveMail player realm.db).1, by simp [commitMail, Realm.setPlayer],
    saveMail_toCharacter player realm.db⟩

/-- Taking an item off a mail whose charge is below the sign bit is defined, takes the
charge, and sends it to an existing sender. -/
theorem takeItem_exact (hbooks : books.Sound) (hrealm : realm.Agrees books)
    (hplayer : realm.players low = some player) (env : Environment Inventory) (time : Nat)
    {mail : Mail} (hmail : mail ∈ player.mails) (hmoney : mail.cod.toNat ≤ player.money.toNat)
    (itemId : UInt32) (item : Item) :
    ∃ after payer, takeItem env realm time low player mail itemId item = some after ∧
      after.players low = some payer ∧
      payer.money.toNat + mail.cod.toNat = player.money.toNat ∧
      (0 < mail.cod.toNat → senderExists env realm mail.sender = true →
        after.Carries realm.mailId mail.sender mail.cod.toNat) := by
  obtain ⟨hlt, -, howed⟩ := (hrealm.players low player hplayer).mails mail hmail
  have hsmall : mail.cod.toNat < 2 ^ 31 := howed ▸ hbooks.small mail.messageId
  have hnext : ∀ held ∈ player.mails, held.messageId < realm.mailId := fun held hheld =>
    hrealm.next ▸ ((hrealm.players low player hplayer).mails held hheld).1
  unfold takeItem
  by_cases hzero : mail.cod = 0
  · obtain ⟨payer, hpayer, hcharacter⟩ := commitMail_players realm low
      (takeFrom env player mail.messageId itemId item none)
    rw [if_pos hzero]
    refine ⟨_, payer, rfl, hpayer, ?_, ?_⟩
    · have hsame : payer.money = player.money := by
        rw [hcharacter]
        rfl
      rw [hsame, hzero]
      rfl
    · intro hpos
      rw [hzero] at hpos
      cases hpos
  · have hpos : 0 < mail.cod.toNat := by
      rcases Nat.eq_zero_or_pos mail.cod.toNat with h | h
      · exact absurd (UInt64.toNat.inj h) hzero
      · exact h
    obtain ⟨paid, hpaid, hpaidCharacter, hpaidLoaded, hpaidKept, hpaidMails⟩ :=
      payCod_players hnext hplayer env time mail
    rw [if_neg hzero, negSigned_of_lt (by decide) hsmall, Option.bind_eq_bind, Option.bind_some]
    simp only [hpaid, Option.getD_some]
    obtain ⟨payer, hpayer, hcharacter⟩ := commitMail_players (payCod env realm time mail) low
      (takeFrom env paid mail.messageId itemId item (some (-(mail.cod.toNat : Int))))
    refine ⟨_, payer, rfl, hpayer, ?_, ?_⟩
    · have hcharge : payer.money = modifyMoney paid.money (-(mail.cod.toNat : Int)) := by
        rw [hcharacter]
        rfl
      have hpurse : paid.money = player.money := congrArg Character.money hpaidCharacter
      rw [hcharge, hpurse, toNat_modifyMoney_neg hpos hmoney]
      omega
    · intro _ hsender
      have hcarries := payCod_carries env time mail hsender
      -- The payment is the only mail of its id, and it is not about to change.
      have hfresh : ∀ held ∈ paid.mails, held.messageId = realm.mailId →
          held.state = .unchanged := by
        intro held hheld hid
        rcases hpaidMails held hheld with hold | ⟨-, hstate⟩
        · exact absurd hid (Nat.ne_of_lt (hnext held hold))
        · exact hstate
      have hne : realm.mailId ≠ mail.messageId := (Nat.ne_of_lt (hnext mail hmail)).symm
      refine hcarries.commitMail ?_ ?_
      · intro held hheld hstate hid
        obtain ⟨old, hold, hupdate⟩ := mem_takeFrom.mp hheld
        split at hupdate
        next hsame =>
          subst hupdate
          exact hne (hid.symm.trans hsame)
        · subst hupdate
          exact hstate (hfresh old hold hid)
      · rintro rfl hloaded
        obtain ⟨held, hheld, hid, hamount⟩ := hcarries.box paid hpaid hloaded
        refine ⟨held, mem_takeFrom.mpr ⟨held, hheld, if_neg ?_⟩, hid, hamount,
          hfresh held hheld hid⟩
        exact fun hsame => hne (hid.symm.trans hsame)

end Payment

/-! ## All requests -/

section Step

variable {audit : Audit Inventory} {low : UInt32} {player : Player Inventory}

/-- The books kept by an event: it is defined, and its effect agrees with them. -/
def Kept (env : Environment Inventory) (audit : Audit Inventory) (event : Event Inventory) :
    Prop :=
  ∃ outcome, perform env audit.realm event = some outcome ∧
    (Audit.mk outcome.realm (record audit event outcome)).Consistent

theorem sendMail_kept (haudit : audit.Consistent) (hplayer : audit.realm.players low = some player)
    (circumstances : Circumstances) (request : SendMailRequest)
    (hallowed : BelowSignBit env (some audit) (.request low circumstances (.sendMail request))) :
    Kept env audit (.request low circumstances (.sendMail request)) := by
  obtain ⟨books, howed, hbooks, hrealm⟩ := haudit
  unfold Kept
  simp only [perform, hplayer, handle, handleSendMail]
  cases hcheck : checkSendMail env audit.realm circumstances low player request with
  | error refusal =>
    exact ⟨_, rfl, books, by simp [record, howed], hbooks, hrealm⟩
  | ok accepted =>
    obtain ⟨receiver, items⟩ := accepted
    obtain ⟨hcod, hmoney⟩ := hallowed player hplayer (by rw [hcheck]; rfl)
    obtain ⟨d, hd⟩ := exists_negSigned_64 hmoney
    simp only [hd, Option.bind_eq_bind, Option.bind_some]
    refine ⟨_, rfl, books.post receiver request.cod.toNat, ?_, hbooks.post receiver hcod, ?_⟩
    · have hsent : (acceptSendMail env audit.realm circumstances.time low player request
          receiver items d).mailId = audit.realm.mailId + 1 := sendMailTo_mailId _ _ _ _ _ _ _ _
      simp [record, hsent, Books.post, howed, hrealm.next]
    · exact hrealm.acceptSendMail hplayer env _ request (by omega) receiver items d

theorem takeItem_kept (haudit : audit.Consistent) (hplayer : audit.realm.players low = some player)
    (circumstances : Circumstances) (mailId : Nat) (itemId : UInt32) :
    Kept env audit (.request low circumstances (.takeItem mailId itemId)) := by
  obtain ⟨books, howed, hbooks, hrealm⟩ := haudit
  unfold Kept
  simp only [perform, hplayer, handle]
  rcases handleMailTakeItem_cases env audit.realm circumstances low player mailId itemId with
    ⟨mail, item, htakes, heq⟩ | ⟨-, result, heq⟩
  · obtain ⟨hmail, rfl⟩ := mem_of_availableMail htakes.available
    obtain ⟨after, -, htake, -⟩ := takeItem_exact hbooks hrealm hplayer env circumstances.time
      hmail (by simpa [hasEnoughMoney, UInt64.le_iff_toNat_le] using htakes.covered) itemId item
    obtain ⟨books', howed', hbooks', hrealm'⟩ :=
      hrealm.takeItem hbooks hplayer env circumstances.time hmail itemId item htake
    rw [heq, htake]
    refine ⟨_, rfl, books', ?_, hbooks', hrealm'⟩
    simp [record, howed', Books.settle, howed]
  · rw [heq]
    exact ⟨_, rfl, books, by simp [record, howed], hbooks, hrealm⟩

theorem logout_kept (haudit : audit.Consistent) (low : UInt32) : Kept env audit (.logout low) := by
  obtain ⟨books, howed, hbooks, hrealm⟩ := haudit
  unfold Kept
  simp only [perform]
  cases hplayer : audit.realm.players low with
  | none => exact ⟨_, rfl, books, howed, hbooks, hrealm⟩
  | some player =>
    refine ⟨_, rfl, books, howed, hbooks, hrealm.next, ?_, ?_⟩
    · intro other stored hstored
      simp only [Function.update_apply] at hstored
      split at hstored
      · cases hstored
      · exact hrealm.players other stored hstored
    · have hsaved := Database.Agrees.saveMail hbooks (hrealm.players low player hplayer)
        (hrealm.db.once_saved player)
      show Database.Agrees books
        (if player.mailsUpdated then (saveMail player audit.realm.db).2 else audit.realm.db)
      split
      · exact hsaved
      · exact hrealm.db

/-- Every allowed event is defined and keeps the books. -/
theorem kept_of_belowSignBit (haudit : audit.Consistent) (event : Event Inventory)
    (hallowed : BelowSignBit env (some audit) event) : Kept env audit event := by
  cases event with
  | logout low => exact logout_kept env haudit low
  | login low character =>
    obtain ⟨books, howed, hbooks, hrealm⟩ := haudit
    unfold Kept
    simp only [perform]
    cases hplayer : audit.realm.players low with
    | some player => exact ⟨_, rfl, books, howed, hbooks, hrealm⟩
    | none =>
      refine ⟨_, rfl, books, howed, hbooks, hrealm.setPlayer ⟨?_, ?_⟩⟩
      · simp [Table.empty, Table.mem_def]
      · simp [Table.empty, Table.mem_def]
  | request low circumstances request =>
    cases hplayer : audit.realm.players low with
    | none =>
      have hnone : perform env audit.realm (.request low circumstances request) =
          some { realm := audit.realm } := by simp [perform, hplayer]
      have hsame : record audit (.request low circumstances request)
          { realm := audit.realm } = audit.owed := by
        cases request <;> simp [record]
      refine ⟨_, hnone, ?_⟩
      rw [hsame]
      exact haudit
    | some player =>
      cases request with
      | sendMail request => exact sendMail_kept env haudit hplayer circumstances request hallowed
      | takeItem mailId itemId =>
        exact takeItem_kept env haudit hplayer circumstances mailId itemId
      | getMailList =>
        obtain ⟨books, howed, hbooks, hrealm⟩ := haudit
        simp only [Kept, perform, hplayer, handle]
        exact ⟨_, rfl, books, howed, hbooks, hrealm.handleGetMailList env circumstances⟩
      | markAsRead mailId =>
        obtain ⟨books, howed, hbooks, hrealm⟩ := haudit
        simp only [Kept, perform, hplayer, handle]
        exact ⟨_, rfl, books, howed, hbooks,
          hrealm.handleMailMarkAsRead hplayer circumstances mailId⟩
      | delete mailId =>
        obtain ⟨books, howed, hbooks, hrealm⟩ := haudit
        simp only [Kept, perform, hplayer, handle]
        exact ⟨_, rfl, books, howed, hbooks, hrealm.handleMailDelete hplayer mailId⟩
      | takeMoney mailId money =>
        obtain ⟨books, howed, hbooks, hrealm⟩ := haudit
        simp only [Kept, perform, hplayer, handle]
        exact ⟨_, rfl, books, howed, hbooks,
          hrealm.handleMailTakeMoney hbooks hplayer circumstances mailId money⟩
      | returnToSender mailId =>
        obtain ⟨books, howed, hbooks, hrealm⟩ := haudit
        simp only [Kept, perform, hplayer, handle, handleMailReturnToSender]
        cases availableMail player mailId circumstances.time with
        | none => exact ⟨_, rfl, books, howed, hbooks, hrealm⟩
        | some mail =>
          obtain ⟨books', howed', hbooks', hrealm'⟩ :=
            hrealm.returnMail hbooks hplayer env circumstances.time mail
          exact ⟨_, rfl, books', howed'.trans howed, hbooks', hrealm'⟩

/-- In a consistent realm every request to take an item charges exactly. -/
theorem exactCharge_of_consistent (haudit : audit.Consistent) (event : Event Inventory) :
    ExactCharge env (some audit) event := by
  obtain ⟨books, howed, hbooks, hrealm⟩ := haudit
  unfold ExactCharge
  split
  next heq => cases heq
  next audit' low circumstances mailId itemId heq =>
    obtain rfl := Option.some.inj heq
    intro player hplayer
    rcases handleMailTakeItem_cases env audit.realm circumstances low player mailId itemId with
      ⟨mail, item, htakes, heq⟩ | ⟨-, result, heq⟩
    · obtain ⟨hmail, rfl⟩ := mem_of_availableMail htakes.available
      obtain ⟨after, payer, htake, hpayer, hmoney, hcarries⟩ := takeItem_exact hbooks hrealm
        hplayer env circumstances.time hmail
        (by simpa [hasEnoughMoney, UInt64.le_iff_toNat_le] using htakes.covered) itemId item
      have hcod : mail.cod.toNat = audit.owed mail.messageId :=
        howed ▸ ((hrealm.players low player hplayer).mails mail hmail).2.2
      rw [heq, htake]
      rw [hcod] at hmoney hcarries
      refine ⟨_, rfl, payer, hpayer, by simp, fun _ => ⟨hmoney, ?_⟩⟩
      intro held hheld
      obtain rfl := Option.some.inj ((Table.get?_key hmail).symm.trans hheld)
      exact hcarries
    · rw [heq]
      exact ⟨_, rfl, player, hplayer, fun _ => rfl, by simp⟩
  · trivial

end Step

/-- In every run in which accepted mails ask for less than the sign bit, every request to
take an item charges exactly what the sender entered and nobody has paid yet, and sends
exactly that to him. -/
theorem charges_exact_of_belowSignBit (env : Environment Inventory) (start : Audit Inventory)
    (events : List (Event Inventory)) (hstart : start.Consistent)
    (hallowed : Along (auditStep env) (BelowSignBit env) (some start) events) :
    Along (auditStep env) (ExactCharge env) (some start) events := by
  refine along_of_invariant (auditStep env)
    (fun state => ∃ audit : Audit Inventory, state = some audit ∧ audit.Consistent) ?_ ?_
    (some start) events ⟨start, rfl, hstart⟩ hallowed
  · rintro _ event ⟨audit, rfl, haudit⟩ hevent
    obtain ⟨outcome, hperform, hconsistent⟩ := kept_of_belowSignBit env haudit event hevent
    exact ⟨_, by simp [auditStep, hperform], hconsistent⟩
  · rintro _ event ⟨audit, rfl, haudit⟩ -
    exact exactCharge_of_consistent env haudit event

/-! ## Two players and a parcel -/

/-- Bags as a plain list of items, with room for everything. -/
def listEnvironment : Environment (List Item) where
  mailLevelReq := 1
  mailDeliveryDelay := 3600
  getPlayerGuidByName name := if name = "Thrall" then 1 else if name = "Jaina" then 2 else 0
  getPlayerAccountIdByGuid low := if low = 1 then 11 else if low = 2 then 11 else 0
  mailTemplateExists _ := false
  loadsFromDb _ := true
  getItemByGuid inventory guid := inventory.find? fun item => item.guid = guid
  moveItemFromInventory inventory item := inventory.filter fun held => held.guid ≠ item.guid
  canStoreItem _ _ := equipErrOk
  moveItemToInventory inventory item := item :: inventory

def plainItem (low : UInt64) : Item where
  guid := makeNewGuid low 0 HighGuid.item
  entry := 2589
  count := 1
  ownerGuid := makeNewGuid 1 0 HighGuid.player
  canBeTraded := true
  isBoundAccountWide := false
  isSoulBound := false
  isConjured := false
  duration := 0
  isWrapped := false
  isNotEmptyBag := false

/-- A player of the shared account with an open, empty mailbox. -/
def onlinePlayer (money : UInt64) (inventory : List Item) : Player (List Item) where
  accountId := 11
  level := 90
  isGameMaster := false
  guildId := 0
  hasGuildMail := false
  money := money
  inventory := inventory
  mailsLoaded := true

/-- Thrall holds one item, Jaina half a million gold; there are no mails. -/
def twoPlayers : Audit (List Item) where
  realm :=
    { players := fun low =>
        if low = 1 then some (onlinePlayer 1000 [plainItem 7])
        else if low = 2 then some (onlinePlayer 5000000000 [])
        else none
      mailId := 1
      db := ⟨Table.empty, [], fun _ => none⟩ }
  owed := fun _ => 0

def atTheMailbox : Circumstances := ⟨1000, true, true⟩

def sendParcel (cod : UInt64) : Event (List Item) :=
  .request 1 atTheMailbox (.sendMail
    { receiver := "Jaina", subject := "", body := "", money := 0, cod := cod
      itemGuids := [(plainItem 7).guid] })

/-- Jaina takes the item off the first mail. -/
def takeParcel : Event (List Item) := .request 2 atTheMailbox (.takeItem 1 7)

def purseAfter (events : List (Event (List Item))) (low : UInt32) : Option UInt64 := do
  let audit ← events.foldl (auditStep listEnvironment) (some twoPlayers)
  let player ← audit.realm.players low
  some player.money

theorem twoPlayers_consistent : twoPlayers.Consistent := by
  refine ⟨⟨fun _ => 0, fun _ => 0, 1⟩, rfl, ⟨by simp, by simp⟩, rfl, ?_, ?_⟩
  · intro low player hplayer
    simp only [twoPlayers] at hplayer
    split at hplayer
    · obtain rfl := Option.some.inj hplayer
      exact ⟨by simp [onlinePlayer, Table.empty, Table.mem_def],
        by simp [onlinePlayer, Table.empty, Table.mem_def]⟩
    · split at hplayer
      · obtain rfl := Option.some.inj hplayer
        exact ⟨by simp [onlinePlayer, Table.empty, Table.mem_def],
          by simp [onlinePlayer, Table.empty, Table.mem_def]⟩
      · cases hplayer
  · intro row hrow
    cases hrow

/-- A charge of 100 copper is taken exactly. -/
theorem charges_exact_small_parcel :
    Along (auditStep listEnvironment) (ExactCharge listEnvironment) (some twoPlayers)
      [sendParcel 100, takeParcel] ∧
    purseAfter [sendParcel 100, takeParcel] 2 = some 4999999900 := by
  refine ⟨?_, by decide +kernel⟩
  refine charges_exact_of_belowSignBit listEnvironment twoPlayers [sendParcel 100, takeParcel]
    twoPlayers_consistent ⟨?_, ?_, trivial⟩
  · exact fun _ _ _ => ⟨by decide, by decide⟩
  · unfold takeParcel BelowSignBit
    split
    next heq => cases heq
    · trivial

/-- Exact charges never fill the purse of the receiver. -/
theorem ExactCharge.money_le {env : Environment Inventory} {audit : Audit Inventory}
    {low : UInt32} {circumstances : Circumstances} {mailId : Nat} {itemId : UInt32}
    (hexact : ExactCharge env (some audit) (.request low circumstances (.takeItem mailId itemId)))
    {player : Player Inventory} (hplayer : audit.realm.players low = some player) :
    ∃ outcome after, perform env audit.realm
        (.request low circumstances (.takeItem mailId itemId)) = some outcome ∧
      outcome.realm.players low = some after ∧ after.money.toNat ≤ player.money.toNat := by
  obtain ⟨outcome, houtcome, after, hafter, hrefused, htaken⟩ := hexact player hplayer
  refine ⟨outcome, after, by simp [perform, hplayer, handle, houtcome], hafter, ?_⟩
  cases hstored : outcome.stored with
  | none => rw [hrefused hstored]
  | some item =>
    obtain ⟨hmoney, -⟩ := htaken (by rw [hstored]; rfl)
    omega

/-- A charge of 3 000 000 000 copper is accepted, and pays the receiver. -/
theorem large_charge_credits_receiver :
    purseAfter [sendParcel 3000000000] 2 = some 5000000000 ∧
    purseAfter [sendParcel 3000000000, takeParcel] 2 = some 6294967296 ∧
    ¬ Along (auditStep listEnvironment) (ExactCharge listEnvironment) (some twoPlayers)
      [sendParcel 3000000000, takeParcel] := by
  have hbefore : purseAfter [sendParcel 3000000000] 2 = some 5000000000 := by decide +kernel
  have hafter : purseAfter [sendParcel 3000000000, takeParcel] 2 = some 6294967296 := by
    decide +kernel
  refine ⟨hbefore, hafter, ?_⟩
  rintro ⟨-, hexact, -⟩
  cases hsent : auditStep listEnvironment (some twoPlayers) (sendParcel 3000000000) with
  | none => simp [purseAfter, hsent] at hbefore
  | some audit =>
    rw [hsent] at hexact
    cases hplayer : audit.realm.players 2 with
    | none => simp [purseAfter, hsent, hplayer] at hbefore
    | some player =>
      obtain ⟨outcome, after, hperform, hpurse, hle⟩ := hexact.money_le hplayer
      have hmoney : player.money = 5000000000 := by
        simpa [purseAfter, hsent, hplayer] using hbefore
      have htaken : auditStep listEnvironment (some audit) takeParcel =
          some ⟨outcome.realm, record audit takeParcel outcome⟩ := by
        simp [auditStep, takeParcel, hperform]
      have hcredited : after.money = 6294967296 := by
        simpa [purseAfter, hsent, htaken, hpurse] using hafter
      rw [hmoney, hcredited] at hle
      exact absurd hle (by decide)

end MopServer.Mails
