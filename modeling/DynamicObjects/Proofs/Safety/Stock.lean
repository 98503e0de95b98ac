import DynamicObjects.Host.Stock
import DynamicObjects.Proofs.Safety.Dispatch

/-! # The stock host is respectful

    The handlers of the stock host write to their receiver, and to nothing else
    that exists. -/

namespace DynamicObjects

open Run

namespace Stock

variable {L : World.Locations}

theorem natives_respect : natives.Respect L := by
  intro name this args w hw hthis hargs
  -- What is passed through or stored is the first argument, and null if there is none.
  have hhead : w.Supports (args.headD .null) := by
    cases args with
    | nil => exact World.supports_null
    | cons v rest => exact hargs v List.mem_cons_self
  unfold natives
  split
  · next h _ =>
    cases h with
    | fail | raise => exact keeps_raise hw _
    | null => exact keeps_pure hw World.supports_null
    | zero | one | neg => exact keeps_pure hw (World.supports_int _)
    | text => exact keeps_pure hw (World.supports_text _)
    | boxtext => exact Behaviour.newText_keeps hw _
    | boxfalse | self => exact keeps_pure hw (World.supports_object _)
    | argc =>
      have hsafe : w.Safe L (w.setProperty this "argc" (Value.ofCount args.length)) :=
        hw.setProperty (World.supports_int _) (hthis _)
      apply (keeps_modify hsafe).bind
      intro _ w₁ hsafe _
      exact keeps_pure hsafe.fits (World.supports_int _)
    | store =>
      have hsafe : w.Safe L (w.setPayload this (args.headD .null)) :=
        hw.setProperty hhead (hthis _)
      apply (keeps_modify hsafe).bind
      intro _ w₁ hsafe _
      exact keeps_pure hsafe.fits World.supports_null
    | args => exact keeps_pure hw (World.supports_list.mpr hargs)
    | echo => exact keeps_pure hw hhead
    | marker =>
      have hident : w.Safe L w.freshIdent.2 := hw.of_heap_eq rfl
      have hmarked := hident.trans (hident.fits.allocate (StockHandler.markerType w.nextIdent))
      exact keeps_of_eq_done rfl hmarked (World.supports_object _)
    | bump =>
      apply keeps_read_bind
      have hsafe : w.Safe L (w.setProperty this "n" (.int (StockHandler.bumped w this))) :=
        hw.setProperty (World.supports_int _) (hthis _)
      apply (keeps_modify hsafe).bind
      intro _ w₁ hsafe _
      exact keeps_pure hsafe.fits (World.supports_int _)
  · exact keeps_raise hw _

/-- **The stock host** respects whatever is sealed. -/
theorem host_respects : host.Respects L where
  natives := natives_respect
  functions name args w hw hargs := by
    have hhead : w.Supports (args.headD .null) := by
      cases args with
      | nil => exact World.supports_null
      | cons v rest => exact hargs v List.mem_cons_self
    change (functions name args).Keeps L w World.Supports
    unfold functions
    split
    · next f _ =>
      cases f with
      | double =>
        unfold StockFunction.run
        dsimp only
        split
        · exact keeps_pure hw (World.supports_int _)
        · exact keeps_raise hw _
      | argc => exact keeps_pure hw (World.supports_int _)
      | args => exact keeps_pure hw (World.supports_list.mpr hargs)
      | first => exact keeps_pure hw hhead
      | text =>
        exact (Natives.stringify_keeps natives_respect hw hhead).bind
          fun s w₁ hsafe _ => keeps_pure hsafe.fits (World.supports_text s)
      | boom => exact keeps_raise hw _
    · exact keeps_raise hw _

end Stock

end DynamicObjects
