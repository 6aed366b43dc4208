import SolanaProtocols.PoolBuilders

/-!
# Orders read back

Orders for swaps are built, with the creation of the output account before them
where it is asked for, and wherever the instructions are found the registry parses
one swap for each order.
-/

namespace SolanaProtocols

open Parsing Parsing.Registry Chain Protocols
open Pumpfun (U64)

/-- An instruction as it is found in a transaction. -/
structure Parsing.ParsedInstruction.Carries (ix : ParsedInstruction)
    (instruction : Instruction) : Prop where
  programId : ix.programId = instruction.programId
  accounts : ix.accounts = instruction.accounts.map AccountMeta.pubkey
  data : ix.data = instruction.data

namespace Protocols

/-- An order for a swap: the configuration of its builder and the arguments. -/
inductive PoolOrder
  | raydiumV4 (keys : RaydiumV4.RaydiumV4Keys) (isBuy : Bool)
      (params : RaydiumV4.SwapBaseInParams)
  | raydiumClmm (config : RaydiumClmm.SwapV2BuilderConfig)
      (params : RaydiumClmm.SwapV2Params)
  | raydiumCpmm (config : RaydiumCpmm.SwapBaseInputBuilderConfig)
      (params : RaydiumCpmm.SwapBaseInputParams)
  | launchpadBuy (keys : RaydiumLaunchpad.LaunchpadKeys)
      (params : RaydiumLaunchpad.BuyExactInParams)
  | launchpadSell (keys : RaydiumLaunchpad.LaunchpadKeys)
      (params : RaydiumLaunchpad.SellExactInParams)
  | meteoraDbc (config : MeteoraDbc.SwapBuilderConfig) (params : MeteoraDbc.SwapParams)

namespace PoolOrder

section Building

variable (overflow : MachineArithmetic.Overflow) (addresses : BuilderAddresses)
  (tokens : TokenAccountInstructions) (user : Pubkey)

/-- Build an order, unless the derivation of its tick arrays panics. -/
def buildSwapWithSetup (createAta : Bool) : PoolOrder → Option (List Instruction)
  | raydiumV4 keys isBuy params => some <|
      RaydiumV4.SwapBaseInBuilder.buildSwapWithSetup addresses tokens (keys, isBuy) user
        params createAta
  | raydiumClmm config params =>
      RaydiumClmm.SwapV2Builder.buildSwapWithSetup overflow addresses tokens config user
        params createAta
  | raydiumCpmm config params => some <|
      RaydiumCpmm.SwapBaseInputBuilder.buildSwapWithSetup addresses tokens config user
        params createAta
  | launchpadBuy keys params => some <|
      RaydiumLaunchpad.BuyExactInBuilder.buildSwapWithSetup addresses tokens keys user
        params createAta
  | launchpadSell keys params => some
      [RaydiumLaunchpad.SellExactInBuilder.buildSwapInstruction addresses keys user params]
  | meteoraDbc config params => some <|
      MeteoraDbc.SwapBuilder.buildSwapWithSetup addresses tokens config user params
        createAta

/-- What the registry makes of an order. -/
def parsed : PoolOrder → Except ParseError SwapEvent
  | raydiumV4 keys isBuy params =>
      let ata := addresses.getAssociatedTokenAddress user
      .ok <| userSwap .raydiumV4 keys.ammId
        (ata (if isBuy then keys.quoteMint else keys.baseMint))
        (ata (if isBuy then keys.baseMint else keys.quoteMint))
        params.amountIn params.minimumAmountOut user
  | raydiumClmm config params =>
      match config.keys.tickArraysForSwap overflow addresses config.currentTick
        config.isBuy config.tickArrayCount with
      | some (first :: rest) =>
          .error (.instruction (.unmodelledAccounts 13 (13 + (rest.length + 1)) first))
      | _ =>
          let (amountIn, amountOut) := RaydiumClmm.amounts params.amount
            params.otherAmountThreshold params.isBaseInput
          .ok <| userSwap .raydiumClmm config.keys.poolId
            (if config.isBuy then config.keys.tokenMint1 else config.keys.tokenMint0)
            (if config.isBuy then config.keys.tokenMint0 else config.keys.tokenMint1)
            amountIn amountOut user
  | raydiumCpmm config params => .ok <|
      userSwap .raydiumCpmm config.keys.poolId
        (if config.isBuy then config.keys.token1Mint else config.keys.token0Mint)
        (if config.isBuy then config.keys.token0Mint else config.keys.token1Mint)
        params.amountIn params.minimumAmountOut user
  | launchpadBuy keys params => .ok <|
      (userSwap .raydiumLaunchpad keys.poolId keys.quoteMint keys.baseMint
        params.amountIn params.minimumAmountOut user).withDirection true
  | launchpadSell keys params => .ok <|
      (userSwap .raydiumLaunchpad keys.poolId keys.baseMint keys.quoteMint
        params.amountIn params.minimumAmountOut user).withDirection false
  | meteoraDbc config params => .ok <|
      userSwap .meteoraDbc config.keys.pool config.keys.baseMint config.keys.quoteMint
        params.amountIn params.minimumAmountOut user

end Building

variable {overflow : MachineArithmetic.Overflow} {addresses : BuilderAddresses}
  {tokens : TokenAccountInstructions} {user : Pubkey} {utf8Error : Bytes → String}
  {ix : ParsedInstruction}

/-- What the full registry adds to the swaps for an instruction. -/
abbrev swapOf (utf8Error : Bytes → String) (addresses : BuilderAddresses)
    (ix : ParsedInstruction) : Option (Except ParseError SwapEvent) :=
  ProtocolRegistry.withAllProtocols.swapOf utf8Error addresses.toAddressDerivation ix

theorem swapOf_of_result {parser : ProtocolParser}
    {result : Except ParseError SwapEvent} (program : ix.programId = parser.programId)
    (parsed : parser.parseEvent utf8Error addresses.toAddressDerivation ix =
      result.map fun swap => some (.swap swap)) :
    swapOf utf8Error addresses ix = some result := by
  rw [swapOf, ProtocolRegistry.swapOf, ProtocolRegistry.resultOf_of_registered
    (ProtocolRegistry.withAllProtocols_iff.mpr program.symm), parsed]
  cases result <;> rfl

theorem swapOf_of_call {parser : ProtocolParser} {fixed : FixedParser} {call : fixed.Call}
    {swap : SwapEvent} (isFixed : parser.parseEvent utf8Error addresses.toAddressDerivation =
      fixed.eventParser.parse) (program : ix.programId = parser.programId)
    (data : ix.data = call.instruction.data) (accounts : ix.accounts = call.keys)
    (event : call.event = .swap swap) :
    swapOf utf8Error addresses ix = some (.ok swap) := by
  refine swapOf_of_result program ?_
  rw [isFixed, FixedParser.parse_of_call data accounts, event]
  rfl

theorem swapOf_creation {payer wallet mint tokenProgram : Pubkey}
    (carries : ix.Carries (tokens.createAssociatedTokenAccountIdempotent payer wallet mint
      tokenProgram)) : swapOf utf8Error addresses ix = none := by
  have program : ix.programId = splAssociatedTokenAccount :=
    carries.programId.trans (tokens.programId_eq ..)
  have unregistered :
      ProtocolRegistry.withAllProtocols.parsers ix.programId = none := by
    rw [Option.eq_none_iff_forall_ne_some]
    intro parser registered
    rw [ProtocolRegistry.withAllProtocols_iff, program] at registered
    cases parser <;> exact absurd registered (by decide)
  rw [swapOf, ProtocolRegistry.swapOf,
    ProtocolRegistry.resultOf_of_unregistered unregistered, Option.bind_none]

/-- A swap that is parsed is parsed once, with or without the creation before it. -/
theorem filterMap_withSetup {createAta : Bool} {payer wallet mint tokenProgram : Pubkey}
    {swap : Instruction} {result : Except ParseError SwapEvent}
    {ixs : List ParsedInstruction}
    (carried : List.Forall₂ ParsedInstruction.Carries ixs (withSetup createAta
      (tokens.createAssociatedTokenAccountIdempotent payer wallet mint tokenProgram) swap))
    (parsed : ∀ ix : ParsedInstruction, ix.Carries swap →
      swapOf utf8Error addresses ix = some result) :
    ixs.filterMap (swapOf utf8Error addresses) = [result] := by
  cases createAta with
  | true =>
      obtain ⟨creation, rest, isCreation, isSwap, rfl⟩ :=
        List.forall₂_cons_right_iff.mp carried
      obtain ⟨last, nothing, isLast, isNil, rfl⟩ := List.forall₂_cons_right_iff.mp isSwap
      cases isNil
      rw [List.filterMap_cons_none (swapOf_creation isCreation),
        List.filterMap_cons_some (parsed last isLast), List.filterMap_nil]
  | false =>
      obtain ⟨last, nothing, isLast, isNil, rfl⟩ := List.forall₂_cons_right_iff.mp carried
      cases isNil
      rw [List.filterMap_cons_some (parsed last isLast), List.filterMap_nil]

theorem swapOf_raydiumV4 {keys : RaydiumV4.RaydiumV4Keys} {isBuy : Bool}
    {params : RaydiumV4.SwapBaseInParams}
    (carries : ix.Carries (RaydiumV4.SwapBaseInBuilder.buildSwapInstruction addresses
      (keys, isBuy) user params)) :
    swapOf utf8Error addresses ix =
      some (parsed overflow addresses user (.raydiumV4 keys isBuy params)) := by
  let call : RaydiumV4.fixedParser.Call :=
    ⟨⟨.swapBaseIn, params⟩,
      if isBuy then .forBuy addresses keys user else .forSell addresses keys user⟩
  refine @swapOf_of_call _ _ _ .raydiumV4 _ call _ rfl carries.programId carries.data ?_ ?_
  · rw [carries.accounts]
    exact RaydiumV4.SwapBaseInAccounts.struct.map_pubkey_toAccountMetas call.accounts
  · cases isBuy <;> rfl

theorem swapOf_raydiumCpmm {config : RaydiumCpmm.SwapBaseInputBuilderConfig}
    {params : RaydiumCpmm.SwapBaseInputParams}
    (carries : ix.Carries (RaydiumCpmm.SwapBaseInputBuilder.buildSwapInstruction addresses
      config user params)) :
    swapOf utf8Error addresses ix =
      some (parsed overflow addresses user (.raydiumCpmm config params)) := by
  let call : RaydiumCpmm.fixedParser.Call :=
    ⟨⟨.swapBaseInput, params⟩, .fromKeys addresses config.keys user config.isBuy⟩
  refine @swapOf_of_call _ _ _ .raydiumCpmm _ call _ rfl carries.programId carries.data ?_ ?_
  · rw [carries.accounts]
    exact RaydiumCpmm.SwapAccounts.struct.map_pubkey_toAccountMetas call.accounts
  · obtain ⟨keys, isBuy⟩ := config
    cases isBuy <;> rfl

theorem swapOf_launchpadBuy {keys : RaydiumLaunchpad.LaunchpadKeys}
    {params : RaydiumLaunchpad.BuyExactInParams}
    (carries : ix.Carries (RaydiumLaunchpad.BuyExactInBuilder.buildSwapInstruction addresses
      keys user params)) :
    swapOf utf8Error addresses ix =
      some (parsed overflow addresses user (.launchpadBuy keys params)) := by
  let call : RaydiumLaunchpad.fixedParser.Call :=
    ⟨⟨.buyExactIn, params⟩, .fromKeys addresses keys user⟩
  refine @swapOf_of_call _ _ _ .raydiumLaunchpad _ call _ rfl carries.programId carries.data
    ?_ rfl
  rw [carries.accounts]
  exact RaydiumLaunchpad.SwapAccounts.struct.map_pubkey_toAccountMetas call.accounts

theorem swapOf_launchpadSell {keys : RaydiumLaunchpad.LaunchpadKeys}
    {params : RaydiumLaunchpad.SellExactInParams}
    (carries : ix.Carries (RaydiumLaunchpad.SellExactInBuilder.buildSwapInstruction
      addresses keys user params)) :
    swapOf utf8Error addresses ix =
      some (parsed overflow addresses user (.launchpadSell keys params)) := by
  let call : RaydiumLaunchpad.fixedParser.Call :=
    ⟨⟨.sellExactIn, params⟩, .fromKeys addresses keys user⟩
  refine @swapOf_of_call _ _ _ .raydiumLaunchpad _ call _ rfl carries.programId carries.data
    ?_ rfl
  rw [carries.accounts]
  exact RaydiumLaunchpad.SwapAccounts.struct.map_pubkey_toAccountMetas call.accounts

theorem swapOf_meteoraDbc {config : MeteoraDbc.SwapBuilderConfig}
    {params : MeteoraDbc.SwapParams}
    (carries : ix.Carries (MeteoraDbc.SwapBuilder.buildSwapInstruction addresses config
      user params)) :
    swapOf utf8Error addresses ix =
      some (parsed overflow addresses user (.meteoraDbc config params)) := by
  let call : MeteoraDbc.fixedParser.Call :=
    ⟨⟨.swap, params⟩, .fromKeys addresses config.keys user config.isBuy⟩
  refine @swapOf_of_call _ _ _ .meteoraDbc _ call _ rfl carries.programId carries.data ?_ rfl
  rw [carries.accounts]
  exact MeteoraDbc.SwapAccounts.struct.map_pubkey_toAccountMetas call.accounts

/-- The tick arrays of a swap are accounts past those that its parser models. -/
theorem swapOf_raydiumClmm {config : RaydiumClmm.SwapV2BuilderConfig}
    {params : RaydiumClmm.SwapV2Params} {instruction : Instruction}
    (built : RaydiumClmm.SwapV2Builder.buildSwapInstruction overflow addresses config user
      params = some instruction) (carries : ix.Carries instruction) :
    swapOf utf8Error addresses ix =
      some (parsed overflow addresses user (.raydiumClmm config params)) := by
  rw [RaydiumClmm.SwapV2Builder.buildSwapInstruction, Option.map_eq_some_iff] at built
  obtain ⟨arrays, derived, rfl⟩ := built
  let call : RaydiumClmm.fixedParser.Call :=
    ⟨⟨.swapV2, params⟩, .fromKeys addresses config.keys user config.isBuy⟩
  have accounts : ix.accounts = call.keys ++ arrays := by
    have fixed := RaydiumClmm.SwapV2Accounts.struct.map_pubkey_toAccountMetas call.accounts
    rw [carries.accounts, List.map_append, List.map_map]
    exact congrArg₂ (· ++ ·) fixed (List.map_id arrays)
  cases arrays with
  | nil =>
      rw [List.append_nil] at accounts
      have read : call.event = .swap (match parsed overflow addresses user
          (.raydiumClmm config params) with
        | .ok swap => swap
        | .error _ => SwapEvent.new .raydiumClmm 0 0 0 0 0) := by
        obtain ⟨keys, isBuy, tick, count⟩ := config
        simp only [parsed, derived]
        cases isBuy <;> rfl
      refine (@swapOf_of_call _ _ _ .raydiumClmm _ call _ rfl carries.programId
        carries.data accounts read).trans ?_
      simp only [parsed, derived]
  | cons first rest =>
      refine @swapOf_of_result _ _ _ .raydiumClmm _ carries.programId ?_
      refine (FixedParser.parse_of_more carries.data accounts).trans ?_
      simp only [parsed, derived]
      rfl

/-- Of each order one swap is parsed. -/
theorem filterMap_swapOf {order : PoolOrder} {createAta : Bool}
    {instructions : List Instruction} {ixs : List ParsedInstruction}
    (built : order.buildSwapWithSetup overflow addresses tokens user createAta =
      some instructions)
    (carried : List.Forall₂ ParsedInstruction.Carries ixs instructions) :
    ixs.filterMap (swapOf utf8Error addresses) =
      [order.parsed overflow addresses user] := by
  cases order with
  | raydiumV4 keys isBuy params =>
      cases built
      exact filterMap_withSetup carried fun _ carries => swapOf_raydiumV4 carries
  | raydiumClmm config params =>
      rw [buildSwapWithSetup, RaydiumClmm.SwapV2Builder.buildSwapWithSetup,
        Option.map_eq_some_iff] at built
      obtain ⟨swap, isBuilt, rfl⟩ := built
      exact filterMap_withSetup carried fun _ carries =>
        swapOf_raydiumClmm isBuilt carries
  | raydiumCpmm config params =>
      cases built
      exact filterMap_withSetup carried fun _ carries => swapOf_raydiumCpmm carries
  | launchpadBuy keys params =>
      cases built
      exact filterMap_withSetup carried fun _ carries => swapOf_launchpadBuy carries
  | launchpadSell keys params =>
      cases built
      exact @filterMap_withSetup addresses tokens _ false user user 0 0 _ _ _ carried
        fun _ carries => swapOf_launchpadSell carries
  | meteoraDbc config params =>
      cases built
      exact filterMap_withSetup carried fun _ carries => swapOf_meteoraDbc carries

end PoolOrder

/-- An order of a user. -/
structure UserOrder where
  user : Pubkey
  order : PoolOrder
  createAta : Bool

/-- However many orders are built, wherever their instructions are found and whether
or not output accounts are created before them, the registry parses one swap for each
order, in order.  It is the swap that was asked for, but for a bonding curve, whose
buys are parsed as sells, and for a concentrated pool, whose swaps are refused for
their tick arrays. -/
theorem orders_parsed (utf8Error : Bytes → String)
    (overflow : MachineArithmetic.Overflow) (addresses : BuilderAddresses)
    (tokens : TokenAccountInstructions) {orders : List UserOrder}
    {batches : List (List Instruction)} {ixs : List ParsedInstruction}
    (built : List.Forall₂ (fun order instructions =>
      order.order.buildSwapWithSetup overflow addresses tokens order.user order.createAta =
        some instructions) orders batches)
    (carried : List.Forall₂ ParsedInstruction.Carries ixs batches.flatten) :
    ProtocolRegistry.withAllProtocols.parseSwaps utf8Error addresses.toAddressDerivation
        ixs =
      orders.map fun order => order.order.parsed overflow addresses order.user := by
  rw [ProtocolRegistry.parseSwaps_eq]
  induction built generalizing ixs with
  | nil =>
      cases carried
      rfl
  | @cons order instructions orders batches isBuilt _ ih =>
      rw [List.flatten_cons] at carried
      have front := List.forall₂_take_append _ _ _ carried
      have back := List.forall₂_drop_append _ _ _ carried
      rw [← List.take_append_drop instructions.length ixs, List.filterMap_append,
        PoolOrder.filterMap_swapOf isBuilt front, ih back, List.map_cons,
        List.singleton_append]

/-- Where an instruction may be found. -/
def Instruction.found (instruction : Instruction) : ParsedInstruction where
  programId := instruction.programId
  accounts := instruction.accounts.map AccountMeta.pubkey
  data := instruction.data
  logs := []
  stackHeight := 1
  parentIndex := none
  instructionIndex := 0

theorem Instruction.carries_found (instructions : List Instruction) :
    List.Forall₂ ParsedInstruction.Carries (instructions.map Instruction.found)
      instructions := by
  induction instructions with
  | nil => exact .nil
  | cons instruction instructions ih => exact .cons ⟨rfl, rfl, rfl⟩ ih

/-- A pool of token 2 against token 3. -/
def plainCpmmConfig (isBuy : Bool) : RaydiumCpmm.SwapBaseInputBuilderConfig where
  keys :=
    { poolId := 1
      ammConfig := 0
      token0Mint := 2
      token1Mint := 3
      token0Vault := 0
      token1Vault := 0
      token0Program := splToken
      token1Program := splToken
      observationKey := 0 }
  isBuy := isBuy

/-- The idempotent creation: the payer signs, and the new account is written. -/
def plainCreation : TokenAccountInstructions where
  createAssociatedTokenAccountIdempotent payer wallet mint tokenProgram :=
    { programId := splAssociatedTokenAccount
      accounts :=
        [{ pubkey := payer, isSigner := true, isWritable := true },
          { pubkey := SwapBuilder.capturedAddresses.getAssociatedTokenAddressWithProgramId
              wallet mint tokenProgram
            isSigner := false
            isWritable := true },
          { pubkey := wallet, isSigner := false, isWritable := false },
          { pubkey := mint, isSigner := false, isWritable := false },
          { pubkey := systemProgram, isSigner := false, isWritable := false },
          { pubkey := tokenProgram, isSigner := false, isWritable := false }]
      data := [1] }
  programId_eq _ _ _ _ := rfl

theorem orders_parsed_both :
    ∃ ixs : List ParsedInstruction, ixs.length = 3 ∧
      ProtocolRegistry.withAllProtocols.parseSwaps (fun _ => "")
          SwapBuilder.capturedAddresses.toAddressDerivation ixs =
        [.ok (userSwap .raydiumCpmm 1 3 2 10 9 7), .ok (userSwap .raydiumCpmm 1 2 3 10 9 7)] :=
  let order (isBuy : Bool) : UserOrder :=
    ⟨7, .raydiumCpmm (plainCpmmConfig isBuy) ⟨10, 9⟩, isBuy⟩
  ⟨_, rfl, @orders_parsed (fun _ => "") .panics SwapBuilder.capturedAddresses plainCreation
    [order true, order false] _ _ (.cons rfl (.cons rfl .nil))
    (Instruction.carries_found _)⟩

end Protocols

end SolanaProtocols
