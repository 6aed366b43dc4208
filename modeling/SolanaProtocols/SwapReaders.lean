import SolanaProtocols.RegistrySwap

/-!
# The two readers of a pumpfun swap

The registry and the extractor both read the accounts of the instruction.  The
registry takes the direction from the instruction and the amounts from the log;
the extractor takes all of them from the event, wherever it found it.  They name
the same trade exactly when the bytes that they read say the same.
-/

namespace SolanaProtocols

open Parsing Chain Protocols
open Parsing.Registry (wordAt u64At tradeEventDiscriminator ProtocolRegistry
  ProtocolParser ParseError)
open Pumpfun (U64)

namespace Chain

/-- What a swap comes down to. -/
structure Trade where
  pool : Pubkey
  trader : Pubkey
  tokenIn : Pubkey
  tokenOut : Pubkey
  amountIn : U64
  amountOut : U64
deriving DecidableEq

namespace Trade

/-- A trade of a mint against SOL. -/
def onCurve (pool trader mint : Pubkey) (isBuy : Bool)
    (solAmount tokenAmount : U64) : Trade where
  pool := pool
  trader := trader
  tokenIn := if isBuy then wsol else mint
  tokenOut := if isBuy then mint else wsol
  amountIn := if isBuy then solAmount else tokenAmount
  amountOut := if isBuy then tokenAmount else solAmount

variable {pool trader mint : Pubkey} {first second : Bool}
  {solAmount tokenAmount solAmount' tokenAmount' : U64}

theorem onCurve_eq_iff :
    onCurve pool trader mint first solAmount tokenAmount =
        onCurve pool trader mint second solAmount' tokenAmount' ↔
      (second = first ∧ solAmount' = solAmount ∧ tokenAmount' = tokenAmount) ∨
        mint = wsol ∧ second = !first ∧ solAmount' = tokenAmount ∧
          tokenAmount' = solAmount := by
  rw [onCurve, onCurve, Trade.mk.injEq]
  cases first <;> cases second <;>
    simp only [if_true, if_false, Bool.false_eq_true, Bool.true_eq_false,
      Bool.not_true, Bool.not_false, true_and, false_and, and_false, or_false,
      false_or] <;>
    constructor <;> grind

end Trade

/-- The trade of a recorded swap. -/
def Swap.trade (swap : Swap) : Trade where
  pool := swap.pool
  trader := swap.trader
  tokenIn := swap.tokenIn
  tokenOut := swap.tokenOut
  amountIn := swap.amountIn
  amountOut := swap.amountOut

end Chain

/-- The trade of a parsed swap, if it names the trader. -/
def Parsing.Registry.SwapEvent.trade? (event : Registry.SwapEvent) : Option Trade :=
  event.user.map fun user =>
    { pool := event.pool
      trader := user
      tokenIn := event.tokenIn
      tokenOut := event.tokenOut
      amountIn := event.amountIn
      amountOut := event.amountOut }

namespace Chain

section ChildEvent

variable {Event : Type} {event : Parsing.ProtocolEvent Event} {value : Event}
  {ix : ParsedInstruction} {all : List ParsedInstruction} {program : Pubkey}

/-- The body on the first child that carries an event, or else in the log. -/
def childBody (expected : Discriminator) (ix : ParsedInstruction)
    (all : List ParsedInstruction) (program : Pubkey) : Option Bytes :=
  ((childrenOn ix all program).findSome? fun child =>
      eventBody child.data expected).or (ix.findDataLogWithDiscriminator expected)

theorem fromChildren_eq_ok {children : List ParsedInstruction}
    {found : Option Event} (read : fromChildren event children = .ok found) :
    (children.findSome? fun child => eventBody child.data event.discriminator).map
        event.tryFromSlice = found.map .ok := by
  induction children with
  | nil =>
      cases read
      rfl
  | cons child children ih =>
      rw [fromChildren, ProtocolEvent.fromEventInstruction] at read
      rw [List.findSome?_cons]
      cases body : eventBody child.data event.discriminator with
      | none =>
          rw [body] at read
          exact ih read
      | some payload =>
          rw [body] at read
          cases decoded : event.fromEventBody payload with
          | error source => simp [decoded, Except.map] at read
          | ok value =>
              simp only [decoded, Except.map, Except.ok.injEq] at read
              subst read
              exact congrArg some (event.fromEventBody_eq_ok_iff.mp decoded)

/-- The event that is found is the decoded body. -/
theorem exists_body_of_childEvent
    (found : childEvent event ix all program = .ok value) :
    ∃ body, childBody event.discriminator ix all program = some body ∧
      event.tryFromSlice body = .ok value := by
  rw [childEvent] at found
  rw [childBody]
  split at found
  next => cases found
  next onChild =>
    cases found
    obtain ⟨body, carried, decoded⟩ :=
      Option.map_eq_some_iff.mp (fromChildren_eq_ok onChild)
    rw [carried]
    exact ⟨body, rfl, decoded⟩
  next onNone =>
    rw [Option.map_eq_none_iff.mp (fromChildren_eq_ok onNone), Option.none_or]
    split at found
    next payload inLog =>
      refine ⟨payload, inLog, ?_⟩
      rw [← event.fromEventBody_eq_ok_iff]
      cases decoded : event.fromEventBody payload with
      | error source => simp [decoded, Except.mapError] at found
      | ok other => simpa [decoded, Except.mapError] using found
    next => cases found

end ChildEvent

end Chain

namespace Pumpfun

/-- The byte of a direction. -/
def directionByte (isBuy : Bool) : UInt8 :=
  if isBuy then 1 else 0

/-- The body of an event and a trade log say the same of a swap of the mint.
The SOL amount is at byte 32, the token amount at byte 40 and the direction of
the event at byte 48. -/
inductive SameTrade (isBuy : Bool) (mint : Pubkey) (body logData : Bytes) : Prop
  | straight (direction : body[48]? = some (directionByte isBuy))
      (solAmount : wordAt body 32 = wordAt logData 32)
      (tokenAmount : wordAt body 40 = wordAt logData 40)
  | crossed (wrapped : mint = wsol)
      (direction : body[48]? = some (directionByte !isBuy))
      (solAmount : wordAt body 32 = wordAt logData 40)
      (tokenAmount : wordAt body 40 = wordAt logData 32)

theorem directionByte_injective : Function.Injective directionByte := by
  intro first second same
  cases first <;> cases second <;>
    first
    | rfl
    | exact absurd same (by decide)

section Body

variable {utf8Error : Bytes → String} (event : TradeEvent)

theorem TradeEvent.exists_encode :
    ∃ rest, (TradeEvent.fields utf8Error).encode event =
      pubkey.encode event.mint ++ (u64.encode event.solAmount ++
        (u64.encode event.tokenAmount ++ directionByte event.isBuy :: rest)) :=
  ⟨_, rfl⟩

theorem TradeEvent.wordAt_solAmount :
    wordAt ((TradeEvent.fields utf8Error).encode event) 32 =
      u64.encode event.solAmount := by
  obtain ⟨rest, bodyEq⟩ := @TradeEvent.exists_encode utf8Error event
  rw [bodyEq]
  exact Registry.wordAt_append (PrefixCodec.leBytes_length 32 _)

theorem TradeEvent.wordAt_tokenAmount :
    wordAt ((TradeEvent.fields utf8Error).encode event) 40 =
      u64.encode event.tokenAmount := by
  obtain ⟨rest, bodyEq⟩ := @TradeEvent.exists_encode utf8Error event
  rw [bodyEq, ← List.append_assoc]
  apply Registry.wordAt_append
  rw [List.length_append]
  exact congrArg₂ (· + ·) (PrefixCodec.leBytes_length 32 _)
    (PrefixCodec.leBytes_length 8 _)

theorem TradeEvent.directionAt :
    ((TradeEvent.fields utf8Error).encode event)[48]? =
      some (directionByte event.isBuy) := by
  obtain ⟨rest, bodyEq⟩ := @TradeEvent.exists_encode utf8Error event
  have frontLength : (pubkey.encode event.mint ++ (u64.encode event.solAmount ++
      u64.encode event.tokenAmount)).length = 48 := by
    simp only [List.length_append]
    exact congrArg₂ (· + ·) (PrefixCodec.leBytes_length 32 _)
      (congrArg₂ (· + ·) (PrefixCodec.leBytes_length 8 _)
        (PrefixCodec.leBytes_length 8 _))
  rw [bodyEq, ← List.append_assoc (u64.encode _), ← List.append_assoc,
    List.getElem?_append_right frontLength.le, frontLength]
  rfl

theorem TradeEvent.length_encode :
    48 ≤ ((TradeEvent.fields utf8Error).encode event).length := by
  obtain ⟨inside, -⟩ := List.getElem?_eq_some_iff.mp
    (@TradeEvent.directionAt utf8Error event)
  exact inside.le

theorem TradeEvent.u64At_solAmount :
    u64At ((TradeEvent.fields utf8Error).encode event) 32 = event.solAmount := by
  have enough := @TradeEvent.length_encode utf8Error event
  rw [Registry.u64At_eq_iff (by omega)]
  exact event.wordAt_solAmount

theorem TradeEvent.u64At_tokenAmount :
    u64At ((TradeEvent.fields utf8Error).encode event) 40 = event.tokenAmount := by
  rw [Registry.u64At_eq_iff event.length_encode]
  exact event.wordAt_tokenAmount

/-- A trade event and a log say the same exactly when the event's direction and
amounts are those of the instruction and the log. -/
theorem TradeEvent.sameTrade_iff {isBuy : Bool} {mint : Pubkey} {logData : Bytes}
    (enough : 48 ≤ logData.length) :
    SameTrade isBuy mint ((TradeEvent.fields utf8Error).encode event) logData ↔
      (event.isBuy = isBuy ∧ event.solAmount = u64At logData 32 ∧
          event.tokenAmount = u64At logData 40) ∨
        mint = wsol ∧ event.isBuy = !isBuy ∧
          event.solAmount = u64At logData 40 ∧
            event.tokenAmount = u64At logData 32 := by
  have solWord : 32 + 8 ≤ logData.length := by omega
  have word (amount : U64) {offset : Nat} (inside : offset + 8 ≤ logData.length) :
      u64.encode amount = wordAt logData offset ↔ amount = u64At logData offset := by
    rw [← Registry.encode_u64At inside]
    exact Registry.encode_u64_injective.eq_iff
  have direction (other : Bool) :
      some (directionByte event.isBuy) = some (directionByte other) ↔
        event.isBuy = other :=
    (Option.some_inj).trans directionByte_injective.eq_iff
  constructor
  · intro same
    cases same with
    | straight directionEq solEq tokenEq =>
        rw [directionAt, direction] at directionEq
        rw [wordAt_solAmount, word _ solWord] at solEq
        rw [wordAt_tokenAmount, word _ enough] at tokenEq
        exact .inl ⟨directionEq, solEq, tokenEq⟩
    | crossed wrapped directionEq solEq tokenEq =>
        rw [directionAt, direction] at directionEq
        rw [wordAt_solAmount, word _ enough] at solEq
        rw [wordAt_tokenAmount, word _ solWord] at tokenEq
        exact .inr ⟨wrapped, directionEq, solEq, tokenEq⟩
  · rintro (⟨directionEq, solEq, tokenEq⟩ | ⟨wrapped, directionEq, solEq, tokenEq⟩)
    · refine .straight ?_ ?_ ?_
      · rw [directionAt, direction, directionEq]
      · rw [wordAt_solAmount, word _ solWord, solEq]
      · rw [wordAt_tokenAmount, word _ enough, tokenEq]
    · refine .crossed wrapped ?_ ?_ ?_
      · rw [directionAt, direction, directionEq]
      · rw [wordAt_solAmount, word _ enough, solEq]
      · rw [wordAt_tokenAmount, word _ solWord, tokenEq]

end Body

/-- A buy, exact buy or sell of the first layout. -/
structure IsFirstSwap (utf8Error : Bytes → String) (form : SwapForm)
    (ix : ParsedInstruction) : Prop where
  first : form.isSecond = false
  program : ix.programId = programId
  decodes : ∃ parsed, (pumpfunInstruction utf8Error).tryFromSlice ix.data =
    .ok parsed ∧ SwapForm.ofVariant parsed.variant = some form

/-- The trade that the accounts of an instruction make of a direction and
amounts. -/
def SwapForm.trade (form : SwapForm) (ix : ParsedInstruction) (isBuy : Bool)
    (solAmount tokenAmount : U64) : Trade :=
  let key := Chain.keyAt form.slots ix.accounts
  .onCurve (key .bondingCurve) (key .user) (key .mint) isBuy solAmount tokenAmount

section Readers

variable {utf8Error : Bytes → String} {addresses : AddressDerivation}
  {registry : ProtocolRegistry}
  {others : ProtocolParser → ParsedInstruction →
    Except ParseError (Option Registry.ProtocolEvent)}
  {form : SwapForm} {ix : ParsedInstruction} {all : List ParsedInstruction}
  {parsedSwap : Registry.SwapEvent} {swap : Swap}

theorem SwapForm.pumpfunEvent_eq (ix : ParsedInstruction)
    {parsed : (pumpfunInstruction utf8Error).Instruction}
    (first : form.isSecond = false)
    (formEq : SwapForm.ofVariant parsed.variant = some form) :
    Registry.pumpfunEvent utf8Error ix parsed =
        Registry.pumpfunParseSwap utf8Error ix parsed.variant ∧
      parsed.variant.isBuy = form.isBuy := by
  obtain ⟨variant, params⟩ := parsed
  cases variant <;> cases formEq <;>
    first
    | exact ⟨rfl, rfl⟩
    | cases first

theorem SwapForm.indices_of_first (first : form.isSecond = false) :
    form.slots.indexOf .mint = 2 ∧ form.slots.indexOf .bondingCurve = 3 ∧
      form.slots.indexOf .user = 6 := by
  cases form <;>
    first
    | decide
    | cases first

theorem SwapForm.declares_of_first (first : form.isSecond = false) :
    Declares form.slots .mint ∧ Declares form.slots .bondingCurve ∧
      Declares form.slots .user := by
  cases form <;>
    first
    | decide
    | cases first

/-- The registry reads the direction of the form and the amounts of the log. -/
theorem exists_log_of_parse (swapping : IsFirstSwap utf8Error form ix)
    (parsed : registry.parse utf8Error others ix =
      .ok (some (.swap parsedSwap))) :
    ∃ logData, ix.findDataLogWithDiscriminator
        (tradeEventDiscriminator utf8Error) = some logData ∧
      48 ≤ logData.length ∧ parsedSwap.trade? = some (form.trade ix form.isBuy
        (u64At logData 32) (u64At logData 40)) := by
  obtain ⟨instruction, decoded, formEq⟩ := swapping.decodes
  obtain ⟨eventEq, isBuyEq⟩ :=
    SwapForm.pumpfunEvent_eq ix swapping.first formEq
  have program : ix.programId = ProtocolParser.pumpfun.programId := swapping.program
  have parsed' : Registry.pumpfunParse utf8Error ix = _ :=
    ProtocolRegistry.parse_eq_ok program parsed
  rw [Registry.pumpfunParse, decoded] at parsed'
  obtain ⟨mint, curve, user, logData, mintEq, curveEq, userEq, found, enough, same⟩ :=
    Registry.pumpfunParseSwap_eq_ok_iff.mp (eventEq.symm.trans parsed')
  cases same
  obtain ⟨mintAt, curveAt, userAt⟩ := SwapForm.indices_of_first swapping.first
  refine ⟨logData, found, enough, ?_⟩
  simp only [SwapForm.trade, Chain.keyAt, mintAt, curveAt, userAt,
    List.getD_eq_getElem?_getD, mintEq, curveEq, userEq, Option.getD_some, isBuyEq]
  rfl

/-- The extractor reads the direction and the amounts of the event. -/
theorem trade_of_swapVia (first : form.isSecond = false) {trackVolume : OptionBool}
    {build : TradeEvent → ParsedInstruction → Except ExtractError Swap}
    (via : swapVia utf8Error build ix all = .ok (some swap))
    (buildEq : ∀ event ix, build event ix = do
      let identity ← identityFromV1 (form.accounts addresses) ix
      corroborate "mint" event.mint identity.mint
      return swapFrom identity event ix trackVolume) :
    ∃ event, childEvent (tradeEvent utf8Error) ix all programId = .ok event ∧
      swap.trade = form.trade ix event.isBuy event.solAmount event.tokenAmount := by
  obtain ⟨event, built, completed, found, builtEq, -, rfl⟩ :=
    swapVia_eq_some_iff.mp via
  simp only [buildEq, identityFromV1, bind_eq_ok_iff, readAccounts_eq_ok_iff,
    corroborate_eq_ok_iff, pure, Except.pure, Except.ok.injEq] at builtEq
  obtain ⟨_, ⟨accounts, read, rfl⟩, _, -, rfl⟩ := builtEq
  obtain ⟨mint, curve, user⟩ := SwapForm.declares_of_first first
  refine ⟨event, found, ?_⟩
  rw [SwapForm.trade, ← SwapForm.account_eq read mint,
    ← SwapForm.account_eq read curve, ← SwapForm.account_eq read user]
  rfl

theorem exists_body_of_extract (swapping : IsFirstSwap utf8Error form ix)
    (extracted : extract utf8Error addresses ix all = some swap) :
    ∃ event, childEvent (tradeEvent utf8Error) ix all programId = .ok event ∧
      childBody (tradeEventDiscriminator utf8Error) ix all programId =
          some ((TradeEvent.fields utf8Error).encode event) ∧
        swap.trade =
          form.trade ix event.isBuy event.solAmount event.tokenAmount := by
  obtain ⟨⟨variant, params⟩, decoded, formEq⟩ := swapping.decodes
  have given := extract_eq_some_iff.mp extracted
  rw [tryExtract, decoded] at given
  split at given
  · cases given
  have read : ∃ event,
      childEvent (tradeEvent utf8Error) ix all programId = .ok event ∧
        swap.trade =
          form.trade ix event.isBuy event.solAmount event.tokenAmount := by
    have first := swapping.first
    cases variant with
    | buy =>
        cases formEq
        exact trade_of_swapVia rfl given fun _ _ => rfl
    | buyExactSolIn =>
        cases formEq
        exact trade_of_swapVia rfl given fun _ _ => rfl
    | sell =>
        cases formEq
        exact trade_of_swapVia rfl given fun _ _ => rfl
    | _ => cases formEq <;> cases first
  obtain ⟨event, found, tradeEq⟩ := read
  obtain ⟨body, carried, strict⟩ := exists_body_of_childEvent found
  have bodyEq := (TradeEvent.fields utf8Error).tryFromSlice_eq_ok_iff.mp strict
  exact ⟨event, found, bodyEq ▸ carried, tradeEq⟩

/-- The two readers of a swap of the first forms name the same trade exactly
when the body that the extractor reads and the log that the registry reads say
the same of it. -/
theorem readers_agree_iff (swapping : IsFirstSwap utf8Error form ix)
    (parsed : registry.parse utf8Error others ix =
      .ok (some (.swap parsedSwap)))
    (extracted : extract utf8Error addresses ix all = some swap) :
    parsedSwap.trade? = some swap.trade ↔
      ∃ body ∈ childBody (tradeEventDiscriminator utf8Error) ix all programId,
        ∃ logData ∈ ix.findDataLogWithDiscriminator
          (tradeEventDiscriminator utf8Error),
          SameTrade form.isBuy (Chain.keyAt form.slots ix.accounts .mint) body
            logData := by
  obtain ⟨logData, found, enough, parsedEq⟩ := exists_log_of_parse swapping parsed
  obtain ⟨event, -, carried, tradeEq⟩ := exists_body_of_extract swapping extracted
  simp only [found, carried, Option.mem_def, Option.some.injEq, exists_eq_left',
    parsedEq, tradeEq, event.sameTrade_iff enough]
  exact Trade.onCurve_eq_iff

end Readers

/-- The event of a trade of ten tokens of the mint `2` for five lamports. -/
def loggedTrade (isBuy : Bool) : TradeEvent :=
  { otherTraderEvent with
    user := 6
    isBuy := isBuy }

/-- A sell with a trade event in its log. -/
def loggedSell (isBuy : Bool) : ParsedInstruction :=
  { sellInstruction with
    logs := [.data (tradeEventDiscriminator plainExternals.utf8Error)
      ((TradeEvent.fields plainExternals.utf8Error).encode (loggedTrade isBuy))] }

section LoggedSell

variable (isBuy : Bool)

theorem decodes_loggedSell :
    (pumpfunInstruction plainExternals.utf8Error).tryFromSlice
      (loggedSell isBuy).data = .ok plainSell :=
  (InstructionEnum.tryFromSlice_eq_ok_iff
    instructionDiscriminator_injective).mpr ⟨rfl, trivial⟩

theorem isFirstSwap_loggedSell :
    IsFirstSwap plainExternals.utf8Error .sell (loggedSell isBuy) :=
  ⟨rfl, rfl, plainSell, decodes_loggedSell isBuy, rfl⟩

theorem findDataLog_loggedSell :
    (loggedSell isBuy).findDataLogWithDiscriminator
        (tradeEventDiscriminator plainExternals.utf8Error) =
      some ((TradeEvent.fields plainExternals.utf8Error).encode
        (loggedTrade isBuy)) := by
  simp [ParsedInstruction.findDataLogWithDiscriminator, loggedSell]

/-- The registry takes it for the sell that the instruction is. -/
theorem parse_loggedSell :
    ∃ parsedSwap, ProtocolRegistry.withAllProtocols.parse plainExternals.utf8Error
        (fun _ _ => .ok none) (loggedSell isBuy) = .ok (some (.swap parsedSwap)) ∧
      parsedSwap.trade? = some (.onCurve 3 6 2 false 5 10) := by
  have registered : ProtocolRegistry.withAllProtocols.parsers programId =
      some .pumpfun := by decide
  have parsed : Registry.pumpfunParseSwap plainExternals.utf8Error
      (loggedSell isBuy) .sell = _ :=
    Registry.pumpfunParseSwap_eq_ok_iff.mpr
      ⟨2, 3, 6, _, rfl, rfl, rfl, findDataLog_loggedSell isBuy,
        (loggedTrade isBuy).length_encode, rfl⟩
  rw [TradeEvent.u64At_solAmount, TradeEvent.u64At_tokenAmount] at parsed
  refine ⟨Registry.curveSwap false 2 3 6 5 10, ?_, rfl⟩
  have program : (loggedSell isBuy).programId = programId := rfl
  rw [ProtocolRegistry.parse, program, registered]
  simp only [ProtocolParser.parse, Registry.pumpfunParse, decodes_loggedSell]
  exact parsed

theorem fromChildren_loggedSell {Event : Type} (event : Parsing.ProtocolEvent Event) :
    fromChildren event (childrenOn (loggedSell isBuy) [loggedSell isBuy] programId) =
      .ok none :=
  rfl

theorem childEvent_loggedSell :
    childEvent (tradeEvent plainExternals.utf8Error) (loggedSell isBuy)
      [loggedSell isBuy] programId = .ok (loggedTrade isBuy) := by
  have decoded : (tradeEvent plainExternals.utf8Error).fromEventBody
      ((TradeEvent.fields plainExternals.utf8Error).encode (loggedTrade isBuy)) =
        .ok (loggedTrade isBuy) := by
    rw [ProtocolEvent.fromEventBody_eq_ok_iff]
    exact (PrefixCodec.tryFromSlice_eq_ok_iff _).mpr rfl
  have inLog := findDataLog_loggedSell isBuy
  rw [tradeEventDiscriminator] at inLog
  rw [childEvent, fromChildren_loggedSell]
  simp only [inLog, decoded, Except.mapError]

theorem completesReadably_loggedSell :
    CompletesReadably (loggedSell isBuy) [loggedSell isBuy] := by
  have silent : (loggedSell isBuy).findDataLogWithDiscriminator
      completeEvent.discriminator = none := by
    cases isBuy <;> decide
  exact ⟨none, optionalChildEvent_eq_none (fromChildren_loggedSell isBuy _) silent⟩

/-- The instruction and its event are read together, and agree on the mint. -/
theorem reading_loggedSell :
    ∃ read, reading plainExternals.utf8Error plainExternals.addresses
        (loggedSell isBuy) [loggedSell isBuy] = some read ∧ read.ComparedAgree := by
  obtain ⟨accounts, read⟩ : ∃ accounts,
      (SellAccounts plainExternals.addresses).fromAccountKeys
        (loggedSell isBuy).accounts = .ok accounts :=
    AccountsStruct.exists_of_length rfl
  have untagged : ¬ hasEventTag (loggedSell isBuy).data = true :=
    show ¬ hasEventTag sellInstruction.data = true by decide
  have mintEq : (SellAccounts plainExternals.addresses).account accounts .mint = 2 :=
    AccountsStruct.account_eq read (by decide) (by decide)
  refine ⟨SwapForm.sell.reading plainExternals.addresses _ accounts
    (loggedTrade isBuy), ?_, ?_⟩
  · exact (reading_of_form untagged (decodes_loggedSell isBuy) rfl).trans
      (readBoth_eq_some_iff.mpr
        ⟨_, accounts, childEvent_loggedSell isBuy, read, rfl⟩)
  · rw [SwapForm.comparedAgree_of_first rfl]
    exact mintEq.symm

theorem extract_loggedSell :
    ∃ swap, extract plainExternals.utf8Error plainExternals.addresses
        (loggedSell isBuy) [loggedSell isBuy] = some swap ∧
      swap.trade = .onCurve 3 6 2 isBuy 5 10 := by
  obtain ⟨read, readEq, agree⟩ := reading_loggedSell isBuy
  obtain ⟨swap, extracted⟩ := (explains _ _ _ _).complete _ readEq agree
    (completesReadably_loggedSell isBuy)
  obtain ⟨event, found, -, tradeEq⟩ :=
    exists_body_of_extract (isFirstSwap_loggedSell isBuy) extracted
  cases (childEvent_loggedSell isBuy).symm.trans found
  exact ⟨swap, extracted, tradeEq⟩

end LoggedSell

theorem readers_agree_loggedSell :
    ∃ parsedSwap swap,
      ProtocolRegistry.withAllProtocols.parse plainExternals.utf8Error
          (fun _ _ => .ok none) (loggedSell false) =
            .ok (some (.swap parsedSwap)) ∧
        extract plainExternals.utf8Error plainExternals.addresses
          (loggedSell false) [loggedSell false] = some swap ∧
            parsedSwap.trade? = some swap.trade := by
  obtain ⟨parsedSwap, parsed, -⟩ := parse_loggedSell false
  obtain ⟨swap, extracted, -⟩ := extract_loggedSell false
  refine ⟨parsedSwap, swap, parsed, extracted, ?_⟩
  rw [readers_agree_iff (isFirstSwap_loggedSell false) parsed extracted]
  refine ⟨_, findDataLog_loggedSell false, _, findDataLog_loggedSell false, ?_⟩
  exact .straight (TradeEvent.directionAt _) rfl rfl

/-- The registry takes a sell for a sell and the extractor takes it for the buy
that its event is. -/
theorem not_readers_agree_loggedSell :
    ¬ ∀ (registry : ProtocolRegistry) (utf8Error : Bytes → String)
      (others : ProtocolParser → ParsedInstruction →
        Except ParseError (Option Registry.ProtocolEvent))
      (addresses : AddressDerivation) (all : List ParsedInstruction), ∀ ix ∈ all,
        ∀ (form : SwapForm) (parsedSwap : Registry.SwapEvent) (swap : Swap),
          IsFirstSwap utf8Error form ix →
            registry.parse utf8Error others ix = .ok (some (.swap parsedSwap)) →
              extract utf8Error addresses ix all = some swap →
                parsedSwap.trade? = some swap.trade := by
  intro claimed
  obtain ⟨parsedSwap, parsed, parsedEq⟩ := parse_loggedSell true
  obtain ⟨swap, extracted, tradeEq⟩ := extract_loggedSell true
  have same := claimed .withAllProtocols _ _ plainExternals.addresses
    [loggedSell true] (loggedSell true) List.mem_cons_self .sell parsedSwap swap
    (isFirstSwap_loggedSell true) parsed extracted
  rw [parsedEq, tradeEq] at same
  exact absurd same (by decide)

end Pumpfun

end SolanaProtocols
