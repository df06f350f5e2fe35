import LiquidationBot.LiquidationFlashReceiver

/-!
# Encoded routes

A liquidation route is encoded as seven words. One receiver decodes seven; the
other one, whose getters the startup check reads, decodes five, without the
route type in front and without the minimum of collateral. There every field is
read from the word of the field before it.
-/

namespace LiquidationBot

/-- `EncodedLiquidationRoute`, with amounts that fit their words. -/
structure EncodedLiquidationRoute where
  collateralAsset : Address
  debtAsset : Address
  user : Address
  debtToCover : BitVec 256
  minCollateralOut : BitVec 256
  receiveAToken : Option Bool
deriving DecidableEq

namespace EncodedLiquidationRoute

/-- `liquidationParams`: the words of a route. -/
def words (routeType : BitVec 8) (route : EncodedLiquidationRoute) : List AbiWords.Word :=
  [AbiWords.ofUnsigned routeType, AbiWords.ofUnsigned route.collateralAsset.value,
    AbiWords.ofUnsigned route.debtAsset.value, AbiWords.ofUnsigned route.user.value,
    AbiWords.ofUnsigned route.debtToCover, AbiWords.ofUnsigned route.minCollateralOut,
    AbiWords.ofBool (route.receiveAToken.getD false)]

end EncodedLiquidationRoute

def encodeLiquidationRoute (route : EncodedLiquidationRoute) : List AbiWords.Byte :=
  AbiWords.encode (route.words 0)

def encodeMoonwellRoute (route : EncodedLiquidationRoute) : List AbiWords.Byte :=
  AbiWords.encode (route.words 1)

def encodeMorphoRoute (route : EncodedLiquidationRoute) : List AbiWords.Byte :=
  AbiWords.encode (route.words 2)

/-- The fields of a route that a liquidation needs. -/
def EncodedLiquidationRoute.liquidation (route : EncodedLiquidationRoute) : LiquidationCall where
  collateralAsset := route.collateralAsset.value
  debtAsset := route.debtAsset.value
  user := route.user.value
  debtToCover := route.debtToCover.toNat
  receiveAToken := route.receiveAToken.getD false

namespace MultiProtocolFlashReceiver

/-- The tuple that `executeOperation` of the other receiver decodes. -/
structure Params where
  routeType : BitVec 8
  call : LiquidationCall
  minCollateralOut : Nat
deriving DecidableEq

def decodeParams (params : List AbiWords.Byte) : Option Params := do
  let routeType ← LiquidationFlashReceiver.fieldAt (AbiWords.readUnsigned 8) params 0
  let collateralAsset ← LiquidationFlashReceiver.fieldAt (AbiWords.readUnsigned 160) params 1
  let debtAsset ← LiquidationFlashReceiver.fieldAt (AbiWords.readUnsigned 160) params 2
  let user ← LiquidationFlashReceiver.fieldAt (AbiWords.readUnsigned 160) params 3
  let debtToCover ← LiquidationFlashReceiver.fieldAt (AbiWords.readUnsigned 256) params 4
  let minCollateralOut ← LiquidationFlashReceiver.fieldAt (AbiWords.readUnsigned 256) params 5
  let receiveAToken ← LiquidationFlashReceiver.fieldAt AbiWords.readBool params 6
  some
    { routeType := routeType
      call := ⟨collateralAsset, debtAsset, user, debtToCover.toNat, receiveAToken⟩
      minCollateralOut := minCollateralOut.toNat }

/-- This receiver reads every route as it was encoded. -/
theorem decodeParams_encode (routeType : BitVec 8) (route : EncodedLiquidationRoute) :
    decodeParams (AbiWords.encode (route.words routeType)) =
      some ⟨routeType, route.liquidation, route.minCollateralOut.toNat⟩ := by
  have byte := AbiWords.readUnsigned_ofUnsigned (by decide : 8 ≤ 256)
  have address := AbiWords.readUnsigned_ofUnsigned (by decide : 160 ≤ 256)
  have amount := AbiWords.readUnsigned_ofUnsigned (by decide : 256 ≤ 256)
  simp [decodeParams, LiquidationFlashReceiver.fieldAt, EncodedLiquidationRoute.words,
    EncodedLiquidationRoute.liquidation, byte, address, amount]

end MultiProtocolFlashReceiver

namespace LiquidationFlashReceiver

/-- The receiver reads a route as it was encoded. -/
def Agrees (route : EncodedLiquidationRoute) : Prop :=
  decodeParams (encodeLiquidationRoute route) = some route.liquidation

/-- The fields that the receiver sees: each is read one word too early. -/
theorem decodeParams_encode_iff (route : EncodedLiquidationRoute) (call : LiquidationCall) :
    decodeParams (encodeLiquidationRoute route) = some call ↔
      call.collateralAsset = 0 ∧ call.debtAsset = route.collateralAsset.value ∧
        call.user = route.debtAsset.value ∧ call.debtToCover = route.user.value.toNat ∧
        route.debtToCover = AbiWords.ofBool call.receiveAToken := by
  have address := AbiWords.readUnsigned_ofUnsigned (by decide : 160 ≤ 256)
  have narrow : AbiWords.readUnsigned 160 (AbiWords.ofUnsigned (0 : BitVec 8)) = some 0 := by
    decide
  have widened : AbiWords.ofUnsigned route.debtToCover = route.debtToCover := by
    simp [AbiWords.ofUnsigned]
  have amount : AbiWords.readUnsigned 256 (AbiWords.ofUnsigned route.user.value) =
      some (AbiWords.ofUnsigned route.user.value) := by
    rw [AbiWords.readUnsigned_eq_some_iff]
  have kept : (AbiWords.ofUnsigned route.user.value).toNat = route.user.value.toNat := by
    have read := address route.user.value
    rwa [AbiWords.readUnsigned_eq_some_iff] at read
  obtain ⟨collateralAsset, debtAsset, user, debtToCover, receiveAToken⟩ := call
  simp only [decodeParams, fieldAt, encodeLiquidationRoute, AbiWords.wordAt_encode,
    EncodedLiquidationRoute.words, List.getElem?_cons_zero, List.getElem?_cons_succ,
    Option.bind_eq_bind, Option.bind_some, narrow, address, amount, kept, widened,
    Option.bind_eq_some_iff, AbiWords.readBool_eq_some_iff, Option.pure_def, Option.some.injEq,
    LiquidationCall.mk.injEq]
  constructor
  · rintro ⟨value, word, rfl, rfl, rfl, rfl, rfl⟩
    exact ⟨rfl, rfl, rfl, rfl, word⟩
  · rintro ⟨rfl, rfl, rfl, rfl, word⟩
    exact ⟨receiveAToken, word, rfl, rfl, rfl, rfl, rfl⟩

/-- Encoder and receiver agree on the route of zeros only: all addresses zero,
nothing to cover, and the collateral not as the pool's token. -/
theorem encoder_agrees_iff (route : EncodedLiquidationRoute) :
    Agrees route ↔
      route.collateralAsset.value = 0 ∧ route.debtAsset.value = 0 ∧ route.user.value = 0 ∧
        route.debtToCover = 0 ∧ route.receiveAToken ≠ some true := by
  rw [Agrees, decodeParams_encode_iff]
  simp only [EncodedLiquidationRoute.liquidation]
  constructor
  · rintro ⟨collateral, debt, user, amount, flag⟩
    rw [collateral] at debt
    rw [debt] at user
    rw [user] at amount
    have nothing : route.debtToCover = 0 := BitVec.eq_of_toNat_eq amount
    refine ⟨collateral, debt, user, nothing, ?_⟩
    intro asked
    rw [nothing, asked] at flag
    exact absurd flag (by decide)
  · rintro ⟨collateral, debt, user, nothing, flag⟩
    rw [collateral, debt, user, nothing]
    refine ⟨rfl, rfl, rfl, rfl, ?_⟩
    cases asked : route.receiveAToken with
    | none => rfl
    | some value =>
      cases value with
      | false => rfl
      | true => exact absurd asked flag

/-- A route with four distinct fields. -/
def plainRoute : EncodedLiquidationRoute := ⟨⟨5, 0⟩, ⟨6, 0⟩, ⟨9, 0⟩, 1000, 1, none⟩

/-- The receiver takes the amount for a truth value and reverts. -/
theorem route_not_decoded :
    decodeParams (encodeLiquidationRoute plainRoute) = none ∧ ¬ Agrees plainRoute := by
  have fails : decodeParams (encodeLiquidationRoute plainRoute) = none := by decide +kernel
  refine ⟨fails, ?_⟩
  rw [Agrees, fails]
  simp

end LiquidationFlashReceiver

end LiquidationBot
