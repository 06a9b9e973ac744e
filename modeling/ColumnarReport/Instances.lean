/-! Instances that compute, to be preferred to those of algebraic structures. -/
namespace ColumnarReport
namespace Computing

-- Powers of naturals, and the zero that literals denote, from which sums start.
attribute [scoped instance (high)] instPowNat
attribute [scoped instance (high)] Zero.ofOfNat0

end Computing
end ColumnarReport
