import MopServer.Mails.CashOnDelivery

/-! # Items of unpaid mails

A request to take an item names a mail and an item, and the item is looked up among
the items of all mails of the mailbox.  Whether an item is paid for therefore depends
on the mail that is named, not on the mail the item came with.
-/

namespace MopServer.Mails

open MopServer.Foundation

variable {Inventory : Type}

/-- The two requests by which items leave a mailbox. -/
inductive MailboxRequest where
  | takeItem (mailId : Nat) (itemId : UInt32)
  | returnToSender (mailId : Nat)
  deriving DecidableEq, Repr

def MailboxRequest.toRequest : MailboxRequest → Request
  | .takeItem mailId itemId => .takeItem mailId itemId
  | .returnToSender mailId => .returnToSender mailId

/-- A request with the circumstances in which it arrives. -/
structure Visit where
  circumstances : Circumstances
  request : MailboxRequest
  deriving DecidableEq, Repr

def visit (env : Environment Inventory) (low : UInt32) (realm : Realm Inventory)
    (visit : Visit) : Option (Outcome Inventory) :=
  perform env realm (.request low visit.circumstances visit.request.toRequest)

variable (env : Environment Inventory) (low : UInt32)

def visitStep : Option (Realm Inventory) → Visit → Option (Realm Inventory)
  | none, _ => none
  | some realm, event => (visit env low realm event).map Outcome.realm

def isAttached (mailId : Nat) (itemGuid : UInt32) : Option (Realm Inventory) → Bool
  | none => false
  | some realm =>
    match realm.players low with
    | none => false
    | some player =>
      (player.getMItem itemGuid).isSome &&
        (player.getMail mailId).any fun mail => mail.Lists itemGuid

/-- A visit is paid for: an item that some mail offers for money enters the bags only if
that mail is named and its charge is taken. -/
def PaidFor : Option (Realm Inventory) → Visit → Prop
  | none, _ => False
  | some realm, event =>
    ∃ outcome, visit env low realm event = some outcome ∧
      ∀ player, realm.players low = some player → ∀ item, outcome.stored = some item →
        ∀ mail ∈ player.mails, mail.cod ≠ 0 → mail.Lists item.guidLow →
          event.request = .takeItem mail.messageId item.guidLow ∧
          ∃ after, outcome.realm.players low = some after ∧
            after.money.toNat + mail.cod.toNat = player.money.toNat

/-- A request for an item that would be granted names the only mail that offers the item
for money, with a charge below the sign bit. -/
def NamesOfferingMail : Option (Realm Inventory) → Visit → Prop
  | none, _ => False
  | some _, ⟨_, .returnToSender _⟩ => True
  | some realm, ⟨circumstances, .takeItem mailId itemId⟩ =>
    ∀ player, realm.players low = some player → ∀ mail item,
      TakesItem env circumstances player mailId itemId mail item →
        mail.cod.toNat % 2 ^ 32 ≠ 2 ^ 31 ∧
        ∀ held ∈ player.mails, held.cod ≠ 0 → held.Lists itemId →
          held.messageId = mailId ∧ held.cod.toNat < 2 ^ 31

/-- A player whose purse is within the gold limit and whose mails have issued ids. -/
structure MailboxSound (low : UInt32) (realm : Realm Inventory) : Prop where
  purse : ∀ player, realm.players low = some player → player.money.toNat ≤ maxMoneyAmount
  issued : ∀ player, realm.players low = some player →
    ∀ mail ∈ player.mails, mail.messageId < realm.mailId

/-! ## What a visit does to the mailbox -/

/-- A mailbox after an operation: earlier mails have at most the items they had, new ones
have new ids, and no item appears that was not there. -/
structure Player.Shrinks (player after : Player Inventory) (first next : Nat) : Prop where
  le : first ≤ next
  mails : ∀ mail ∈ after.mails,
    (∃ old ∈ player.mails, old.messageId = mail.messageId ∧
      ∀ itemGuid, mail.Lists itemGuid → old.Lists itemGuid) ∨
    first ≤ mail.messageId ∧ mail.messageId < next
  items : ∀ item ∈ after.mailItems, ∃ old ∈ player.mailItems, old.guidLow = item.guidLow

section Mailbox

variable {realm : Realm Inventory} {low : UInt32} {player after : Player Inventory} {first : Nat}
  {source : Player Inventory} {outcome : Outcome Inventory}

theorem Player.Shrinks.refl (player : Player Inventory) (first : Nat) :
    player.Shrinks player first first :=
  ⟨Nat.le_refl _, fun mail hmail => Or.inl ⟨mail, hmail, rfl, fun _ h => h⟩,
    fun item hitem => ⟨item, hitem, rfl⟩⟩

theorem Player.Shrinks.trans {middle : Player Inventory} {second third : Nat}
    (hfirst : player.Shrinks middle first second) (hsecond : middle.Shrinks after second third) :
    player.Shrinks after first third := by
  refine ⟨hfirst.le.trans hsecond.le, ?_, ?_⟩
  · intro mail hmail
    rcases hsecond.mails mail hmail with ⟨old, hold, hid, hlists⟩ | ⟨hge, hlt⟩
    · rcases hfirst.mails old hold with ⟨older, holder, hid', hlists'⟩ | ⟨hge, hlt⟩
      · exact Or.inl ⟨older, holder, hid'.trans hid,
          fun itemGuid h => hlists' itemGuid (hlists itemGuid h)⟩
      · have hle := hsecond.le
        exact Or.inr ⟨by omega, by omega⟩
    · exact Or.inr ⟨hfirst.le.trans hge, hlt⟩
  · intro item hitem
    obtain ⟨old, hold, hguid⟩ := hsecond.items item hitem
    obtain ⟨older, holder, hguid'⟩ := hfirst.items old hold
    exact ⟨older, holder, hguid'.trans hguid⟩

theorem Player.Shrinks.mono {next later : Nat} (hshrinks : player.Shrinks after first next)
    (hle : next ≤ later) : player.Shrinks after first later :=
  ⟨hshrinks.le.trans hle, fun mail hmail => (hshrinks.mails mail hmail).imp_right
    fun hid => ⟨hid.1, hid.2.trans_le hle⟩, hshrinks.items⟩

theorem mem_foldl_addMItem {items : List Item} {item : Item}
    (hitem : item ∈ (items.foldl Player.addMItem player).mailItems) :
    item ∈ items ∨ item ∈ player.mailItems := by
  induction items generalizing player with
  | nil => exact Or.inr hitem
  | cons head rest ih =>
    rcases ih hitem with hrest | hplayer
    · exact Or.inl (List.mem_cons_of_mem _ hrest)
    · rcases Table.mem_insert.mp hplayer with rfl | ⟨hold, -⟩
      · exact Or.inl List.mem_cons_self
      · exact Or.inr hold

/-- A letter that only carries items of the mailbox brings no new one. -/
theorem sendMailTo_shrinks (realm : Realm Inventory) (draft : MailDraft) (receiver sender : UInt32)
    (messageType : MailMessageType) (checked : UInt32) (time deliverDelay : Nat)
    (hstored : realm.players low = some player)
    (hplayer : source.Shrinks player realm.mailId realm.mailId)
    (hitems : ∀ item ∈ draft.items, ∃ old ∈ source.mailItems, old.guidLow = item.guidLow) :
    ∃ after, (draft.sendMailTo realm receiver sender messageType checked time
        deliverDelay).players low = some after ∧
      after.toCharacter = player.toCharacter ∧
      source.Shrinks after realm.mailId (realm.mailId + 1) := by
  rcases sendMailTo_players draft realm receiver sender messageType checked time deliverDelay
    low with ⟨hsame, -⟩ | ⟨-, before, hbefore, -, hafter⟩
  · exact ⟨player, hsame.trans hstored, rfl, hplayer.mono (Nat.le_succ _)⟩
  · obtain rfl := Option.some.inj (hstored.symm.trans hbefore)
    obtain ⟨mailItems, hfold⟩ := foldl_addMItem draft.items.rows (player.addMail
      (draft.toMail realm.mailId receiver sender messageType checked (time + deliverDelay)))
    refine ⟨_, hafter, by rw [hfold]; rfl, Nat.le_succ _, ?_, ?_⟩
    · intro mail hmail
      rw [hfold] at hmail
      rcases Table.mem_insert.mp hmail with rfl | ⟨hold, -⟩
      · exact Or.inr ⟨Nat.le_refl _, Nat.lt_succ_self _⟩
      · rcases hplayer.mails mail hold with hearlier | ⟨hge, hlt⟩
        · exact Or.inl hearlier
        · omega
    · intro item hitem
      rcases mem_foldl_addMItem hitem with hattached | hold
      · exact hitems item hattached
      · exact hplayer.items item hold

theorem mem_foldl_returnItem (infos : List MailItemInfo) (player : Player Inventory)
    (draft : MailDraft) :
    (∀ item ∈ (infos.foldl returnItem (player, draft)).1.mailItems, item ∈ player.mailItems) ∧
      ∀ item ∈ (infos.foldl returnItem (player, draft)).2.items,
        item ∈ draft.items ∨ item ∈ player.mailItems := by
  induction infos generalizing player draft with
  | nil => exact ⟨fun _ h => h, fun _ h => Or.inl h⟩
  | cons info rest ih =>
    have herased : ∀ item ∈ (player.removeMItem info.itemGuid).mailItems,
        item ∈ player.mailItems := fun item hitem => (Table.mem_erase.mp hitem).1
    obtain ⟨hleft, hdrafted⟩ := ih (returnItem (player, draft) info).1
      (returnItem (player, draft) info).2
    refine ⟨fun item hitem => herased item (hleft item hitem), ?_⟩
    intro item hitem
    rcases hdrafted item hitem with hdraft | hplayer
    · simp only [returnItem] at hdraft
      split at hdraft
      next found hfound =>
        rcases Table.mem_insert.mp hdraft with rfl | ⟨hold, -⟩
        · exact Or.inr (Table.get?_eq_some_iff.mp hfound).1
        · exact Or.inl hold
      · exact Or.inl hdraft
    · exact Or.inr (herased item hplayer)

theorem returnDraft_items (mail : Mail) : (returnDraft mail).items = Table.empty := by
  unfold returnDraft
  split <;> rfl

variable (env : Environment Inventory)

theorem sendReturnToSender_shrinks (realm : Realm Inventory) (draft : MailDraft)
    (senderAccount sender receiver : UInt32) (time : Nat) (player : Player Inventory)
    (hstored : realm.players low = some player)
    (hplayer : source.Shrinks player realm.mailId realm.mailId)
    (hitems : ∀ item ∈ draft.items, ∃ old ∈ source.mailItems, old.guidLow = item.guidLow) :
    ∃ after, (draft.sendReturnToSender env realm senderAccount sender receiver time).players
        low = some after ∧
      after.toCharacter = player.toCharacter ∧
      source.Shrinks after realm.mailId
        (draft.sendReturnToSender env realm senderAccount sender receiver time).mailId := by
  unfold MailDraft.sendReturnToSender
  simp only
  split
  · exact ⟨player, hstored, rfl, hplayer⟩
  · rw [sendMailTo_mailId]
    exact sendMailTo_shrinks
      { realm with db := draft.items.rows.foldl (saveForReceiver receiver) realm.db } draft
      receiver sender .normal mailCheckMaskReturned time _ hstored hplayer hitems

theorem returnMail_shrinks (realm : Realm Inventory) (time : Nat) (low : UInt32)
    (player : Player Inventory) (mail : Mail) :
    ∃ after, (returnMail env realm time low player mail).players low = some after ∧
      after.toCharacter = player.toCharacter ∧
      player.Shrinks after realm.mailId (returnMail env realm time low player mail).mailId := by
  have hremoved : player.Shrinks (player.removeMail mail.messageId) realm.mailId realm.mailId :=
    ⟨Nat.le_refl _, fun held hheld => Or.inl ⟨held, (Table.mem_erase.mp hheld).1, rfl,
      fun _ h => h⟩, fun item hitem => ⟨item, hitem, rfl⟩⟩
  unfold returnMail
  simp only
  split
  · obtain ⟨mailItems, attached, hfold⟩ := foldl_returnItem mail.items
      (player.removeMail mail.messageId) (returnDraft mail)
    obtain ⟨hleft, hdrafted⟩ := mem_foldl_returnItem mail.items
      (player.removeMail mail.messageId) (returnDraft mail)
    rw [hfold] at hleft hdrafted
    have hdrafted' : ∀ item ∈ attached, ∃ old ∈ player.mailItems,
        old.guidLow = item.guidLow := by
      intro item hitem
      rcases hdrafted item hitem with hempty | hold
      · rw [returnDraft_items] at hempty
        cases hempty
      · exact ⟨item, hold, rfl⟩
    have hreturned : player.Shrinks
        { player.removeMail mail.messageId with mailItems := mailItems } realm.mailId
        realm.mailId :=
      ⟨Nat.le_refl _, hremoved.mails, fun item hitem => ⟨item, hleft item hitem, rfl⟩⟩
    rw [hfold]
    exact sendReturnToSender_shrinks env (Realm.mk _ realm.mailId _) _ _ _ _ time
      { player.removeMail mail.messageId with mailItems := mailItems }
      (Function.update_self _ _ _) hreturned hdrafted'
  · exact ⟨_, Function.update_self _ _ _, rfl, hremoved⟩

theorem saveMail_shrinks (player : Player Inventory) (db : Database) (first : Nat) :
    player.Shrinks (saveMail player db).1 first first := by
  unfold saveMail
  split
  · refine ⟨Nat.le_refl _, ?_, fun item hitem => ⟨item, hitem, rfl⟩⟩
    intro mail hmail
    obtain ⟨old, hold, rfl⟩ := (Table.mem_map Mail.saved_messageId).mp (Table.mem_filter.mp hmail).1
    refine Or.inl ⟨old, hold, (old.saved_messageId).symm, ?_⟩
    intro itemGuid hlists
    unfold Mail.saved at hlists
    split at hlists <;> exact hlists
  · exact Player.Shrinks.refl player first

theorem takeFrom_shrinks (player : Player Inventory) (mailId : Nat) (itemId : UInt32) (item : Item)
    (d : Option Int) (first : Nat) :
    player.Shrinks (takeFrom env player mailId itemId item d) first first := by
  refine ⟨Nat.le_refl _, ?_, ?_⟩
  · intro mail hmail
    obtain ⟨old, hold, hupdate⟩ := mem_takeFrom.mp hmail
    split at hupdate <;> subst hupdate
    · exact Or.inl ⟨old, hold, rfl, fun itemGuid h => Mail.lists_of_lists_removeItem h⟩
    · exact Or.inl ⟨old, hold, rfl, fun itemGuid h => h⟩
  · intro held hheld
    exact ⟨held, (Table.mem_erase.mp hheld).1, rfl⟩

theorem commitTaken_shrinks (realm : Realm Inventory) (low : UInt32) {payer : Player Inventory}
    (hpayer : player.Shrinks payer first realm.mailId) (mailId : Nat) (itemId : UInt32)
    (item : Item) (d : Option Int) :
    ∃ after, (commitMail realm low (takeFrom env payer mailId itemId item d)).players low =
        some after ∧
      after.toCharacter = (takeFrom env payer mailId itemId item d).toCharacter ∧
      player.Shrinks after first realm.mailId :=
  ⟨_, Function.update_self _ _ _, saveMail_toCharacter _ _,
    (hpayer.trans (takeFrom_shrinks env payer mailId itemId item d _)).trans
      (saveMail_shrinks _ realm.db _)⟩

/-- Paying for a letter moves no item. -/
theorem payCod_shrinks (time : Nat) (mail : Mail) (hplayer : realm.players low = some player) :
    ∃ payer, (payCod env realm time mail).players low = some payer ∧
      payer.toCharacter = player.toCharacter ∧
      player.Shrinks payer realm.mailId (payCod env realm time mail).mailId := by
  unfold payCod
  split
  · rw [sendMailTo_mailId]
    refine sendMailTo_shrinks realm _ mail.sender mail.receiver .normal mailCheckMaskCodPayment
      time 0 hplayer (Player.Shrinks.refl player _) ?_
    intro item hitem
    cases hitem
  · exact ⟨player, hplayer, rfl, Player.Shrinks.refl player _⟩

theorem takeItem_spec (time : Nat) (hplayer : realm.players low = some player) (mail : Mail)
    (itemId : UInt32) (item : Item) :
    takeItem env realm time low player mail itemId item = none ∧ mail.cod ≠ 0 ∧
        negSigned 32 mail.cod.toNat = none ∨
      ∃ taken after, takeItem env realm time low player mail itemId item = some taken ∧
        taken.players low = some after ∧
        player.Shrinks after realm.mailId taken.mailId ∧
        (mail.cod = 0 ∧ after.money = player.money ∨
          mail.cod ≠ 0 ∧ ∃ d, negSigned 32 mail.cod.toNat = some d ∧
            after.money = modifyMoney player.money d) := by
  unfold takeItem
  by_cases hzero : mail.cod = 0
  · rw [if_pos hzero]
    obtain ⟨after, hafter, hcharacter, hshrinks⟩ := commitTaken_shrinks env realm low
      (Player.Shrinks.refl player realm.mailId) mail.messageId itemId item none
    refine Or.inr ⟨_, after, rfl, hafter, hshrinks, Or.inl ⟨hzero, ?_⟩⟩
    rw [hcharacter]
    rfl
  · rw [if_neg hzero]
    cases hd : negSigned 32 mail.cod.toNat with
    | none => exact Or.inl ⟨rfl, hzero, rfl⟩
    | some d =>
      obtain ⟨payer, hpayer, hpayerCharacter, hpayerShrinks⟩ := payCod_shrinks env time mail hplayer
      obtain ⟨after, hafter, hcharacter, hshrinks⟩ := commitTaken_shrinks env
        (payCod env realm time mail) low hpayerShrinks mail.messageId itemId item (some d)
      simp only [Option.bind_eq_bind, Option.bind_some, hpayer, Option.getD_some]
      refine Or.inr ⟨_, after, rfl, hafter, hshrinks, Or.inr ⟨hzero, d, rfl, ?_⟩⟩
      have hcharged : after.money = modifyMoney payer.money d := by
        rw [hcharacter]
        rfl
      rw [hcharged, hpayerCharacter]

variable (event : Visit)

theorem visit_spec (hplayer : realm.players low = some player)
    (houtcome : visit env low realm event = some outcome) :
    ∃ after, outcome.realm.players low = some after ∧
      player.Shrinks after realm.mailId outcome.realm.mailId ∧
      (player.money.toNat ≤ maxMoneyAmount → after.money.toNat ≤ maxMoneyAmount) := by
  obtain ⟨circumstances, request⟩ := event
  simp only [visit, perform, hplayer] at houtcome
  cases request with
  | returnToSender mailId =>
    obtain rfl := Option.some.inj houtcome
    simp only [handleMailReturnToSender]
    cases availableMail player mailId circumstances.time with
    | none => exact ⟨player, hplayer, Player.Shrinks.refl player _, id⟩
    | some mail =>
      obtain ⟨after, hafter, hcharacter, hshrinks⟩ := returnMail_shrinks env realm
        circumstances.time low player mail
      refine ⟨after, hafter, hshrinks, ?_⟩
      rw [hcharacter]
      exact id
  | takeItem mailId itemId =>
    simp only [MailboxRequest.toRequest, handle] at houtcome
    rcases handleMailTakeItem_cases env realm circumstances low player mailId itemId with
      ⟨mail, item, htakes, heq⟩ | ⟨-, result, heq⟩
    · rw [heq] at houtcome
      obtain ⟨taken, htaken, rfl⟩ := Option.map_eq_some_iff.mp houtcome
      rcases takeItem_spec env circumstances.time hplayer mail itemId item with
        ⟨hnone, -⟩ | ⟨_, after, hsome, hafter, hshrinks, hmoney⟩
      · rw [hnone] at htaken
        cases htaken
      · obtain rfl := Option.some.inj (htaken.symm.trans hsome)
        refine ⟨after, hafter, hshrinks, fun hlimit => ?_⟩
        rcases hmoney with ⟨-, hsame⟩ | ⟨-, d, hd, hcharged⟩
        · rw [hsame]
          exact hlimit
        · rw [hcharged]
          refine toNat_modifyMoney_le hlimit ((negSigned_32_le hd).trans ?_)
          unfold maxMoneyAmount
          omega
    · rw [heq] at houtcome
      obtain rfl := Option.some.inj houtcome
      exact ⟨player, hplayer, Player.Shrinks.refl player _, id⟩

theorem visit_of_absent (hplayer : realm.players low = none) :
    visit env low realm event = some { realm := realm } := by
  simp [visit, perform, hplayer]

variable (hsound : MailboxSound low realm)

include hsound in
/-- Every visit keeps the mailbox sound. -/
theorem MailboxSound.visit (env : Environment Inventory) (event : Visit)
    (houtcome : Mails.visit env low realm event = some outcome) :
    MailboxSound low outcome.realm := by
  cases hplayer : realm.players low with
  | none =>
    rw [visit_of_absent env event hplayer] at houtcome
    obtain rfl := Option.some.inj houtcome
    exact hsound
  | some player =>
    obtain ⟨after, hafter, hshrinks, hlimit⟩ := visit_spec env event hplayer houtcome
    constructor
    · intro other hother
      obtain rfl := Option.some.inj (hafter.symm.trans hother)
      exact hlimit (hsound.purse player hplayer)
    · intro other hother mail hmail
      obtain rfl := Option.some.inj (hafter.symm.trans hother)
      rcases hshrinks.mails mail hmail with ⟨old, hold, hid, -⟩ | ⟨-, hlt⟩
      · exact hid ▸ (hsound.issued player hplayer old hold).trans_le hshrinks.le
      · exact hlt

theorem isAttached_iff {mailId : Nat} {itemGuid : UInt32} :
    isAttached low mailId itemGuid (some realm) = true ↔
      ∃ player mail item, realm.players low = some player ∧
        (mail ∈ player.mails ∧ mail.messageId = mailId) ∧ mail.Lists itemGuid ∧
        item ∈ player.mailItems ∧ item.guidLow = itemGuid := by
  simp only [isAttached]
  cases hplayer : realm.players low with
  | none => simp
  | some player =>
    simp only [Bool.and_eq_true, Option.any_eq_true, decide_eq_true_eq, Option.isSome_iff_exists]
    constructor
    · rintro ⟨⟨item, hitem⟩, mail, hmail, hlists⟩
      obtain ⟨hitemMem, hitemKey⟩ := Table.get?_eq_some_iff.mp hitem
      exact ⟨player, mail, item, rfl, Table.get?_eq_some_iff.mp hmail, hlists, hitemMem, hitemKey⟩
    · rintro ⟨_, mail, item, hsame, hmail, hlists, hitem⟩
      obtain rfl := Option.some.inj hsame
      exact ⟨⟨item, Table.get?_eq_some_iff.mpr hitem⟩, mail,
        Table.get?_eq_some_iff.mpr hmail, hlists⟩

theorem mailId_le_of_visit (houtcome : visit env low realm event = some outcome) :
    realm.mailId ≤ outcome.realm.mailId := by
  cases hplayer : realm.players low with
  | none =>
    rw [visit_of_absent env event hplayer] at houtcome
    obtain rfl := Option.some.inj houtcome
    exact Nat.le_refl _
  | some player =>
    obtain ⟨_, -, hshrinks, -⟩ := visit_spec env event hplayer houtcome
    exact hshrinks.le

/-- What a visit leaves attached was attached before. -/
theorem isAttached_of_visit (houtcome : visit env low realm event = some outcome) {mailId : Nat}
    {itemGuid : UInt32} (hissued : mailId < realm.mailId)
    (hattached : isAttached low mailId itemGuid (some outcome.realm) = true) :
    isAttached low mailId itemGuid (some realm) = true := by
  cases hplayer : realm.players low with
  | none =>
    rw [visit_of_absent env event hplayer] at houtcome
    obtain rfl := Option.some.inj houtcome
    exact hattached
  | some player =>
    obtain ⟨after, hafter, hshrinks, -⟩ := visit_spec env event hplayer houtcome
    obtain ⟨other, mail, item, hother, ⟨hmail, rfl⟩, hlists, hitem, hguid⟩ :=
      isAttached_iff.mp hattached
    obtain rfl := Option.some.inj (hafter.symm.trans hother)
    rcases hshrinks.mails mail hmail with ⟨old, hold, hid, hlisted⟩ | ⟨hge, -⟩
    · obtain ⟨oldItem, holdItem, hguid'⟩ := hshrinks.items item hitem
      exact isAttached_iff.mpr ⟨player, old, oldItem, hplayer, ⟨hold, hid⟩,
        hlisted _ hlists, holdItem, hguid'.trans hguid⟩
    · omega

theorem taken_exact_iff (hlimit : player.money.toNat ≤ maxMoneyAmount) {mail : Mail}
    (hcovered : hasEnoughMoney player.money mail.cod = true) {d : Int}
    (hd : negSigned 32 mail.cod.toNat = some d) :
    (modifyMoney player.money d).toNat + mail.cod.toNat = player.money.toNat ↔
      mail.cod.toNat < 2 ^ 31 := by
  have hle : mail.cod.toNat ≤ player.money.toNat := by
    simpa [hasEnoughMoney, UInt64.le_iff_toNat_le] using hcovered
  rw [← modifyMoney_negSigned_32_exact_iff hlimit hle, hd]
  simp

include hsound in
/-- Who takes an item pays for it exactly if he names the letter that offers it. -/
theorem paidFor_takeItem_iff (hplayer : realm.players low = some player)
    (circumstances : Circumstances) (mailId : Nat) (itemId : UInt32) :
    PaidFor env low (some realm) ⟨circumstances, .takeItem mailId itemId⟩ ↔
      NamesOfferingMail env low (some realm) ⟨circumstances, .takeItem mailId itemId⟩ := by
  simp only [PaidFor, NamesOfferingMail, visit, perform, hplayer, MailboxRequest.toRequest,
    handle, Option.some.injEq, forall_eq', MailboxRequest.takeItem.injEq]
  rcases handleMailTakeItem_cases env realm circumstances low player mailId itemId with
    ⟨mail, item, htakes, heq⟩ | ⟨hrefused, result, heq⟩
  · -- The request is granted: everything depends on the mail it names.
    have hguid : item.guidLow = itemId := (Table.get?_eq_some_iff.mp htakes.held).2
    obtain ⟨hmail, hid⟩ := mem_of_availableMail htakes.available
    have hunique : ∀ held ∈ player.mails, held.messageId = mailId → held = mail :=
      fun held hheld hsame => Table.eq_of_key_eq hheld hmail (hsame.trans hid.symm)
    have hfixed : ∀ other otherItem,
        TakesItem env circumstances player mailId itemId other otherItem → other = mail :=
      fun other _ hother => Option.some.inj (hother.available.symm.trans htakes.available)
    rcases takeItem_spec env circumstances.time hplayer mail itemId item with
      ⟨hnone, hcod, hundefined⟩ | ⟨taken, after, hsome, hafter, -, hmoney⟩
    · rw [heq, hnone]
      refine iff_of_false ?_ ?_
      · rintro ⟨_, hoption, -⟩
        cases hoption
      · intro hnames
        exact (hnames mail item htakes).1 (negSigned_32_eq_none_iff.mp hundefined)
    · rw [heq, hsome]
      simp only [Option.map_some, Option.some.injEq, exists_eq_left', forall_eq', hguid, hafter,
        and_true]
      constructor
      · intro hpaid other otherItem hother
        obtain rfl := hfixed other otherItem hother
        refine ⟨?_, ?_⟩
        · intro hundefined
          rcases hmoney with ⟨hzero, -⟩ | ⟨-, d, hd, -⟩
          · rw [hzero] at hundefined
            cases hundefined
          · rw [negSigned_32_eq_none_iff.mpr hundefined] at hd
            cases hd
        · intro held hheld hcod hlists
          obtain ⟨hnamed, hexact⟩ := hpaid held hheld hcod hlists
          obtain rfl := hunique held hheld hnamed.symm
          rcases hmoney with ⟨hzero, -⟩ | ⟨-, d, hd, hcharged⟩
          · exact absurd hzero hcod
          · rw [hcharged] at hexact
            exact ⟨hnamed.symm, (taken_exact_iff (hsound.purse player hplayer) htakes.covered
              hd).mp hexact⟩
      · intro hnames held hheld hcod hlists
        obtain ⟨hnamed, hsmall⟩ := (hnames mail item htakes).2 held hheld hcod hlists
        obtain rfl := hunique held hheld hnamed
        rcases hmoney with ⟨hzero, -⟩ | ⟨-, d, hd, hcharged⟩
        · exact absurd hzero hcod
        · rw [hcharged]
          exact ⟨hnamed.symm, (taken_exact_iff (hsound.purse player hplayer) htakes.covered
            hd).mpr hsmall⟩
  · rw [heq]
    refine iff_of_true ⟨_, rfl, ?_⟩ ?_
    · intro item hitem
      cases hitem
    · intro mail item htakes
      exact absurd ⟨mail, item, htakes⟩ hrefused

include hsound in
theorem paidFor_iff (event : Visit) :
    PaidFor env low (some realm) event ↔ NamesOfferingMail env low (some realm) event := by
  cases hplayer : realm.players low with
  | none =>
    have hvisit := visit_of_absent env event hplayer
    obtain ⟨circumstances, request⟩ := event
    cases request <;> simp [PaidFor, NamesOfferingMail, hplayer, hvisit]
  | some player =>
    obtain ⟨circumstances, request⟩ := event
    cases request with
    | returnToSender mailId =>
      have hstored : ∃ outcome, visit env low realm
          ⟨circumstances, .returnToSender mailId⟩ = some outcome ∧
            outcome.stored = none := by
        simp only [visit, perform, hplayer, MailboxRequest.toRequest, handle,
          handleMailReturnToSender]
        split <;> exact ⟨_, rfl, rfl⟩
      obtain ⟨outcome, houtcome, hnone⟩ := hstored
      refine iff_of_true ⟨outcome, houtcome, ?_⟩ trivial
      intro _ _ item hitem
      rw [hnone] at hitem
      cases hitem
    | takeItem mailId itemId =>
      exact paidFor_takeItem_iff env hsound hplayer circumstances mailId itemId

end Mailbox

/-! ## Sequences of visits -/

/-- Soundness of the mailbox, as long as the behaviour is defined. -/
def SoundWhileDefined (state : Option (Realm Inventory)) : Prop :=
  ∀ realm, state = some realm → MailboxSound low realm

theorem visitStep_sound {low : UInt32} (state : Option (Realm Inventory)) (event : Visit)
    (hstate : SoundWhileDefined low state) :
    SoundWhileDefined low (visitStep env low state event) := by
  cases state with
  | none =>
    intro realm hrealm
    cases hrealm
  | some before =>
    intro realm hrealm
    obtain ⟨outcome, houtcome, rfl⟩ := Option.map_eq_some_iff.mp hrealm
    exact (hstate before rfl).visit env event houtcome

theorem departures_le_one (low : UInt32) (mailId : Nat) (itemGuid : UInt32)
    (start : Realm Inventory) (hstart : MailboxSound low start) (visits : List Visit) :
    fallingEdges (visitStep env low) (isAttached low mailId itemGuid) (some start) visits ≤ 1 := by
  -- Once an issued mail has lost the item, it never gets it back.
  refine fallingEdges_le_one (visitStep env low) (SoundWhileDefined low)
    (fun state => isAttached low mailId itemGuid state = false ∧
      ∀ realm, state = some realm → mailId < realm.mailId)
    (visitStep_sound env) ?_ (fun _ h => h.1) ?_ (some start) visits
    (fun realm hrealm => Option.some.inj hrealm ▸ hstart)
  · rintro state event ⟨hdetached, hissued⟩
    cases state with
    | none => exact ⟨rfl, fun realm hrealm => by cases hrealm⟩
    | some realm =>
      simp only [visitStep]
      cases houtcome : visit env low realm event with
      | none => exact ⟨rfl, fun realm hrealm => by cases hrealm⟩
      | some outcome =>
        refine ⟨?_, ?_⟩
        · rw [← Bool.not_eq_true]
          intro hattached
          rw [isAttached_of_visit env event houtcome (hissued realm rfl) hattached] at hdetached
          cases hdetached
        · intro after hafter
          obtain rfl := Option.some.inj hafter
          exact (hissued realm rfl).trans_le (mailId_le_of_visit env event houtcome)
  · intro state event hsound hattached hdetached
    refine ⟨hdetached, ?_⟩
    intro after hafter
    cases state with
    | none => cases hafter
    | some realm =>
      obtain ⟨outcome, houtcome, rfl⟩ := Option.map_eq_some_iff.mp hafter
      obtain ⟨player, mail, _, hplayer, ⟨hmail, rfl⟩, -⟩ := isAttached_iff.mp hattached
      exact ((hsound realm rfl).issued player hplayer mail hmail).trans_le
        (mailId_le_of_visit env event houtcome)

/-- In a sequence of visits every offered item is paid for, and every item leaves its mail
at most once, exactly if every granted request names the mail that offers the item. -/
theorem items_paid_iff_names_offering_mail (env : Environment Inventory) (low : UInt32)
    (start : Realm Inventory) (hstart : MailboxSound low start) (visits : List Visit) :
    (Along (visitStep env low) (PaidFor env low) (some start) visits ∧
      ∀ mailId itemGuid, fallingEdges (visitStep env low) (isAttached low mailId itemGuid)
        (some start) visits ≤ 1) ↔
    Along (visitStep env low) (NamesOfferingMail env low) (some start) visits := by
  have hiff : Along (visitStep env low) (PaidFor env low) (some start) visits ↔
      Along (visitStep env low) (NamesOfferingMail env low) (some start) visits := by
    refine along_iff_of_invariant (visitStep env low) (SoundWhileDefined low)
      (fun state visit hstate _ => visitStep_sound env state visit hstate) ?_ (some start) visits
      (fun realm hrealm => Option.some.inj hrealm ▸ hstart)
    intro state event hsound
    cases state with
    | none => exact Iff.rfl
    | some realm => exact paidFor_iff env (hsound realm rfl) event
  rw [hiff, and_iff_left fun mailId itemGuid =>
    departures_le_one env low mailId itemGuid start hstart visits]

/-! ## A mailbox with a parcel and a letter -/

/-- A mail from Thrall to Jaina that lists one item. -/
def parcelMail (mailId : Nat) (itemGuid : UInt32) (cod : UInt64) : Mail where
  messageId := mailId
  messageType := .normal
  mailTemplateId := 0
  sender := 1
  receiver := 2
  subject := ""
  body := ""
  items := [⟨itemGuid, 2589⟩]
  removedItems := []
  deliverTime := 0
  money := 0
  cod := cod
  checked := mailCheckMaskCopied
  state := .unchanged

/-- Jaina's mailbox: item 7 costs one gold, item 8 is free. -/
def jainaWithParcels : Player (List Item) :=
  { onlinePlayer 50000 [] with
    mails := ⟨[parcelMail 1 7 10000, parcelMail 2 8 0], by decide⟩
    mailItems := ⟨[plainItem 7, plainItem 8], by decide⟩ }

def parcelRealm : Realm (List Item) where
  players low := if low = 2 then some jainaWithParcels else none
  mailId := 3
  db := ⟨Table.empty, [], fun _ => none⟩

theorem parcelRealm_sound : MailboxSound 2 parcelRealm := by
  constructor
  · intro player hplayer
    obtain rfl := Option.some.inj hplayer
    decide
  · intro player hplayer
    obtain rfl := Option.some.inj hplayer
    decide

/-- Taking the parcel off its own mail. -/
theorem parcel_paid_by_its_mail :
    Along (visitStep listEnvironment 2) (PaidFor listEnvironment 2) (some parcelRealm)
      [⟨atTheMailbox, .takeItem 1 7⟩] := by
  refine ((items_paid_iff_names_offering_mail listEnvironment 2 parcelRealm parcelRealm_sound
    [⟨atTheMailbox, .takeItem 1 7⟩]).mpr ⟨?_, trivial⟩).1
  intro player hplayer mail item htakes
  obtain rfl := Option.some.inj hplayer
  obtain rfl := Option.some.inj htakes.available
  refine ⟨by decide, ?_⟩
  intro held hheld
  have hmem : held ∈ [parcelMail 1 7 10000, parcelMail 2 8 0] := hheld
  revert hmem
  revert held
  decide

/-- Naming the free mail gets the parcel without paying. -/
theorem parcel_taken_through_other_mail :
    (visit listEnvironment 2 parcelRealm ⟨atTheMailbox, .takeItem 2 7⟩).map
        (fun outcome => (outcome.stored, (outcome.realm.players 2).map fun player => player.money)) =
      some (some (plainItem 7), some 50000) ∧
    ¬ Along (visitStep listEnvironment 2) (PaidFor listEnvironment 2) (some parcelRealm)
      [⟨atTheMailbox, .takeItem 2 7⟩] := by
  have hstored : (visit listEnvironment 2 parcelRealm ⟨atTheMailbox, .takeItem 2 7⟩).map
      (fun outcome => (outcome.stored, (outcome.realm.players 2).map fun player => player.money)) =
        some (some (plainItem 7), some 50000) := by
    decide +kernel
  refine ⟨hstored, ?_⟩
  rintro ⟨⟨outcome, houtcome, hpaid⟩, -⟩
  rw [houtcome, Option.map_some, Option.some.injEq, Prod.mk.injEq] at hstored
  obtain ⟨hnamed, -⟩ := hpaid jainaWithParcels rfl (plainItem 7) hstored.1
    (parcelMail 1 7 10000) (by simp [jainaWithParcels, Table.mem_def]) (by decide) (by decide)
  cases hnamed

end MopServer.Mails
