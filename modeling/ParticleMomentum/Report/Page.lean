import ParticleMomentum.Profiles

/-!
# Pages

The page of a report: two panels side by side with the profiles of all formulations.
-/

namespace ParticleMomentum

structure Curve (α : Type) where
  label : String
  x : List α
  y : List α

/-- A panel with curves. The legend lists their labels, where there is more than one. -/
structure Panel (α : Type) where
  title : String
  xLabel : String
  yLabel : String
  legend : Option (List String)
  curves : List (Curve α)

structure Page (α : Type) where
  title : String
  panels : List (Panel α)

namespace Page

variable {α : Type}

def panel (separations : List α) (series : List (Series α)) (title yLabel : String) : Panel α :=
  { title
    xLabel := "Separation |r_ij|"
    yLabel
    legend := if series.length > 1 then some (series.map (·.1)) else none
    curves := series.map fun (label, y) => ⟨label, separations, y⟩ }

def ofProfiles (p : Profiles α) : Page α :=
  { title := "Pair Acceleration Profiles"
    panels :=
      [panel p.separations (p.formulations.map fun f => (f.id, f.pressure)) "Pressure Gradient"
        "|acc_i|",
       panel p.separations (p.formulations.map fun f => (f.id, f.shear)) "Shear Forces"
        "|acc_i|"] }

end Page

end ParticleMomentum
