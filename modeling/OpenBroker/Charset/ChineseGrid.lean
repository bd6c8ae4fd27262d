import OpenBroker.Charset.Basic

/-!
# The grids of Chinese

The standard GB 2312 puts characters on a plane of 94 rows with 94 columns.  GBK and
GB 18030 add to it, by the two bytes of a character.  The set Big5 has a grid of its own,
to which Windows and Hong Kong have made different additions.
-/
namespace OpenBroker
namespace Charset

/-- **The plane of GB 2312.** -/
def gb2312 : Grid := .ofPacked 0x21 0x21 94
  "O0YXXFqN3bb11,NLuc7VX3FKq3FKn1YzXWeXW7VmXWxXcmXWlXWNMX2k2YGKW,XW1lb1uZ2Z3W1x8u8XhFc7p6ze3e1hft
    2X4e.XWtXW4l1mZ20.bIPXFOcXWDY3F0a3V6X3VJwXW3FRZFOpG7W2FYZ3rgZlZ2hZ1eZ2NlLmbXWc78YWl5OtXo2lXo2l
    XeWX6RmXeWX8CpXgWX3EPkXXEcEXX2t8k37QbX2nWg.X2qWdMMhXlcXbWdoXlcXbW1b4mXa1f1iXuWkXb1w1tXuWi1Kz2X
    EyEz3e2r3c3d4e3zEeEf6a5rEWEX7q7ZDsDtDycccEX1bWfO1uX1ZWt62pX2gWIYO0W10FiV7v5Mi75r3u4pGTa4h7FY6K
    z59Y4VZ35vI6mFiLMh89,5O,9HW1O.4T,I4cCBbC6kDAv8CwIDh9Ly65k74i49eRTb4Be46i6Uq9FsFMZFr76h3sJEWKPt
    I3qBRX2EYLFm4QuQEvEPWKBvVTuBTj6Ir24i7Az7BW93nADjURiL4pBJuA8j75w7SZRpFRqB5iOGb5Cq7Tr5.9PnIRWGPp
    AvM2w8TwP7n55oHkBUg1A,AV,7Ve6Sm7Ci12CfTPm4Kj10XMTpR0yRAxPIW8Ni13Hv44g10LYUTf3Hgv21WISi81gL8l59
    l8IcBT,6MZ3rU7a7Bv65a3Og129fHBuCSZ3Ug82.BPcNLlKPuDSd9VwEV,GS.4Sr43nGNaPc4g7GWPMlIKiB0hDPnCIu63
    W6mCMngd6Th8kBNcFVgO9X35dBuNTsRDzKGa7By2TwLc3Vf8Ad71kLEt98b21q7rU4sXWcAcK4j49xH2.3DYA6.TKt7MXI
    0WBBz32Y54kEr9Ir48s9Dd3uB1gCQtLRYFReKCp2HcBK,AKi82iFJdShOSyJTdCOn9l8KwOBeCIzM6h7EwI1uIX7g9MjLr
    MQqRHz7VpP.PMuO8h4Td7Vk6Mc8DsAAqODb2DY73kAQiGNZ2GdLDiARjBBy1P.P5zI7eKi9VW12KzPDeDGr59zh7Pm94.9
    vPLzETgCIoGGbC0w9Dv1GfE5YNRfJSaLQ,UiDSW8GpP2uL9t80pNMesDLZ8DWA7l45zBiLsMVqKIZ2I.I8kK7r4jHPW94c
    6Nf6FlATc134t13Mq19gP9n6GsDTv2Ee11uRKm12GXO2aMHz8Tw7UmG1f2HXUMgLGZP1sMOZ8EtCJw8Ov4QxE5yFDgMFl1
    3iGZ22n80yGMw7HZ6SyPPn55Y37l69oKSW4Cl2HhHTtAMWH2b98u44p6Sn2VXLReCIb79uE5kKLtMQW56yGAlIUZGVa9Fd
    7UnCKmHOWOCfTLiD3hFKg17Vl6BcOIs6P,D2X5HoFNn6yQBqKMfMl3HyNBWDVnC9o9UvCH,D7oMBbO3a3NdKNfPTwNTX2d
    C7mBCpTEW37ySuK0zJQeMGr7EkJPnJJW9SlITkOEb5EW30jEAc8KbD1xPHqMAZ3MjJNw2EqE3h2oRMi11Tf11.E5a6HfOQ
    .UQb7Ae1HsK4oU8XCEw8Bw4NeIU,EBy4Jt6Ne56lF0u3IzN5j9RWBDkG6pCIrTHkH2,AKq20mMOX1Ut23nBd1RkLCkAFgA
    OfM4fVBw99zKhB3h3Ld66nO5s5Gh3Bo7Cx8VgC8,5VpAYEDeA1x9t6p7,OU.OEvLPaA6r2It9Tj4Iv2EZBJeDDj8Pa20z6
    MYEAdV5g2AvKGjOAqO0zG1yENnA8v2HwUQeMKXEG.DEX34oEEn8Qo6FeEVyMAhJPcJNn1S.8SlP0mDFzB6d8MeLEiV3j68
    qEDwENt4SvK0uCN,NPmCNvBIX2XBEyBUoEVx30w2C.1P,IRlVAYS6,4DjFQkGFkL9zATW45l2IX93uIFz3Tg22X3MhMLc4
    LjEG,GcOFe8FzCOwQHz5Ki4Ta3T,FKZ12UeVRXEOsIVbIViBAZ15W3OjA6Y10Z6CsI8x11Dq12Gr3k8Oo7N,108q49XSqD
    Pd36k7Dm47m1UXS2x2T,KE.HGZ109u1Uy39o4UZSPdO0oUOXj1PYPBmHAZ7HrAMeC7f8Dg7BXDMeDSb8Js1GaOCs51t1Ta
    D3,DIiCPr5PZ3Bo6cCHWPSjFKgATeIVXMUgAAjGVf7NuA8,GLy1GbEK.KOj30nCMaJGn3Bh12C.T2j1LX28ZT4sKGvPHq1
    0PtURqEP,CKeMBr7CZ25g2YP,RHmJNxJCi5ShNVf7BW4DtNEqL1j10Ly178Z14Dq6EfOPf35a6Fb7FoMTeBe47ySHjFQeN
    CxNFgI1,UMaM4fFAhVAgSL,LOq20tM3,CZ13RaKIt3Fu91qJUdBMg59aAVZ6VgE9gB5ZM6XFGiEHpU0m6DZ52kD7rJB.M9
    bAPZLMqEFrDFaF6tPVeU8r5ApUCY6GhCNvFBg9Mw10Vx11NyC3pMNtSDeRTxM9sH1t71qG8a58x7A.UJZBVcD1hMBaJLnC
    Ru29v80uHJz54z8GcIiDOkN7r6Ta5QsFLmL1bS1u1SeHH,2BbFIiV7dMM.6AYP7f3Mh18p2Cu2Gi64wDIyII,3Ga4wMC.O
    Kt6Ts7GmM1lCqBJi36a3w5Ui7IcKPrB1g99ZMEuVPj10UyM3hDOo2cHBhHBg62gTGhRHm1SiQ3z48nQx13KgHUj7Ke5QkO
    LdNTm5AaUBxIPeL8rUk6nQTmJAv24qLHmESd44x81lBAk6Tb8u9I.2P.6DqM5lCAmA6fK0aTTt9c118oAMrMeUpH1t8Po3
    C,A7q2KzI4yCKpVt1B,CBlOJcDHZIVh9uB6m3KtVpU3iEKr5LrHIl12Fm9GzE1,FAo7Hy9eQn13Cb2TsLDiBAXIQk6SrCI
    Z45rGIWJVlK7yBQn5Bb3Lk99v6S.VIy17V,VHaUKX54W1MoIr77i4MxL3YTRX11Jo10QtCQaB4Y80nDJh7UcIQqQ0zR7y5
    ThNJbJFoM5xEOy8LpPd12Kc15I,PEk9T.77Z5PjDLvPJq10OfVSy129pHA.H8v4Pa3IaJ0YTAvA7s1Aj4DYBOl52i4VnS2
    c72ZEUiD3jF6Z7LyEEeTUj6JkOPwDQtALgP9lGHoCFd104y4Qh39b5Tg7LtAMp73j6jJ0.BhTFnUKyGBX30xM3o21nSVX8
    AWGLy3C.TF,12VYVK,90.LZEOZ6G.VDg4IfNRtNGm3Js11RzCOs8Ud4Th1OyKSu9uDJfM,1Ag23dJZ87y2Bdz9Hr73.DBy
    KLh14lQTwG7,IFcRMXJ9sM2XCNcCFfIoMTs5oDPl8OkIJb2Jl2BeHCsARm4NqKK,GiFRe25tALg8IrRFt149cKFvB4x9Lo
    97n5Mv35fDOcF3mK0,NH.TAvE1gAQaBSkOHh8Pt1OqFOsKHp2TrHOiFFnAb1OZ1Vi6.32z8RWA5yDMfLNi1Or39eAAf4Vs
    77f7I,JImOIb6NoA1bF1o57dG7sMTrOpFVY26x36sHIpGgSCmH0x54j7k6U.B9,9Te48y5LvJOi8ChDRZ1B,5N,GCkB7oD
    Kx1Nb8Vx1DiIDmH0jUNoISr75y5JX2QXI9l7Gk85k5Gp3Vl10aLSaDPz6KtM6gNSvAiJ7cNVjAEe5IxDe71z6Pm2OkJDq9
    KbLEdGTW2AbFMw4W6Hr28wELh5Rh10EoMVZAkF4sFGjF2bGLc9KwGQZKhR3w4Uj9Q,JNx2KeBw7KY73.2Ci4zQk2FmCDq4
    MvG3pDUi97w123hIFy2YLGX9NoLmJBq9KfD7q11Fv65uAPq4KvCF,3LkHT.DOd8KfNIsHHpJE.H5,8GX4Ue65hL6WJIt77
    k69k8OrbNUW1WISz31jR7qUBbILg3xKAZ8Q.77z4Sj64e4HjOBsAJY5KvC0vFOw127lKViLKhCCWPCoVRx8Bu5LiFNl2Bw
    FIgDBsIAjFTbNIySmKFnIOw22eD6lDf8Ci3rAPf7.C2WLPd17y9tOOaCNhK9q27,Cf1NX5MyCOZMBlNWOSuNT,13H.LL,7
    iDz7Ax70h4Em12s8KYEl4Im7GiE2d7HbP5wS9bV5a2Dw8GfE3l7VW3Tt7TYP5b112kHOdMJy107x1Kt6KqOEuEGhK4jONi
    73pBFa7QoD4j5jM5,9DsM1wVjgTPnJAuBAp4n9Ea1Nc76W6UWQ0v7N,NTmD2zEf1Vp9Vg1Oc6Uv8Tc5HYO1d44cHRm1If6
    LpIIxLfJDsB4kNQZRgEKyAQlM2y11GlF5uE3s63nC0W136ZUMe1Re3PoOIn9JkB5YFEh1Nf8Jt4OtO9gOUfOQw5Rd8EhR4
    c170v91.DVgt11wO3rUDaIFlP1qI,VDj6EqNVYQTnB4iGOyE7lZKHzFFW4UqBAzB8w22s5GrI5m14QnH3eH1t11FiUQp8Q
    o9kE1iqMNl3QeCMqH0kQCn80a1EgCNnV3gBA,JOr3SXHMqKQtF7Y9QwEOn9w2Oj67ZU6k4a3Ha12Jz1Vg6Gc7SiF4h8EqT
    Fe122f4VpJHaHSXLMuD5xAk1AbHW9OfH2aBPgS1jT0y6EdJPjM8i8Du11Gv18Y4EY6JZLHq6OpHOm4Q.12G,ErJhK.55a2
    Eq2O.BOn7Nq7Lz32Y2Lb27kGCWGbC5f1CYDMqD8h3w9VhGVe7M.EGv6UyJ7wVUpLMgDEvGk7UYFScFCjGDz24XCfD4iEEp
    FY4MmO5w5K,LMv16e4Cy4Ib1IfJ4yD2r2Fv45eGl7Bx78Y39v5Uo9CbIRc44m79aPEfL5aNQvOr5MYLDs6FpKPnI2YLSz8
    4c22z7OaC1xK3W48z57v7RqCp8J,A4b1IjK4iD1hEUk4TYLIl10Ve15CZ14GoS6Z6LwBH,7Ac1CX65j5Vw8d1PjRKaV9Z5
    Kk6KbOPs2Tl75qT3xN4uE4vIVa47pL7d6Qi2IpCGoD2e12AZF2wE9gK3dISuJVjEJg74fTx2IY57Z4MoA3bP0gKRl35e50
    v8AtFRW6QWO9h57qROiG9Z1JvDCt28b14AmOr7U,6Bf26iM0z37a6JYDSq21X7PZ1Vp6yBQlUaAHY4TqM4yHDx4Fp3Ce5A
    n2Fe6BnL7.5DoHMn54y3hNKhA0oCTr2KwDnIOyIBnLxQZFx4iJ1c2EqSm7UxL1a121tGUoFPr2GXO6u1L.62w2PcRAlLe6
    Oe7Ol3KeDTy9SkQBd87a70m11hLEhBBoA3Y2R.Q4t10Mc14qLLZBTXULmJLvDQaNNXIBy1SpAUpPToG5lGEXAVwOEaR8x3
    Ce9ObRAuBVrF2hG6uIi69v8MYF2W14Eb118m62eNHdDVXTMkSIf7Ba8Eg84W9Gi48.5CZ12OxO6gMSzFAqJ0YSSnTTq12A
    X2GbFRo2My55h7BmGIgI3jHKZI0w4Ed2KzB8j172wFKzLRbJAe7xDSmVGb5L.PMiMCt7Nn4V.BTa6CfJJw9QhNKf12IeSV
    h8Vq6Dj84,PEuB3c11cJ0lFAk4KdAx8JyNIZ52kD2,RFaQ1nS4k135,10Co12JrB2c4MXfHBg3JwD2b6Af9Vw2Ad81uH1p
    33i3RZ9NwDNZ2GfAJW8Si9CfMCy104n5hETi91Y6Gg3Px1Py46d8Eg2EoCNrFFo8Qp2BtBIbMMuDQrILf12JeLIX26k78a
    9Us1k126l10f1Rg4Lt183k15LXU7c7B,4NlH0Y9AfC0xB3cF1l2Pr6SqEF.4Pl9q63p5D,63rHUg89b7Ts91iKJ,60YEEu
    10LlNPeONX6AuN5WAwVFXIMe61ZEuKFa2PeIQh2Cd56oE7lTBWKNb9SWCMl55l11lEaTK.1W13GtQIY8yCUx63eF5aH1h5
    7h6KlDTYD6u2SmD8h9Hu1TtMFlEK.19t7UyEFpD5YLLj17w58m75m3TiMMX4nNw3MYIDwC5yA8tFGn9Ri74w5Vz5Pn7QZ2
    GXLNoAAf25v4LbA0Y8NX2AXQK.NU,GPaB8g4Jj10EX7YRRWJRfXWGPoDVXBNu4BfA7,REuS9t27cE8YLGd133YP2x17i9K
    bT6.54ZCQv58,2Gp7PsHRn5Hy90m9Jr71u45p5Nj77k2Te7Sk7o2F,3UWBKl71h9r105Y1VxR8lI9m99xETd5JeJ9sJCn2
    VZGUYGOmVVf65kEVaG9hQNyK2dCNf12IW13Vv4MgJ1gJK,UMi13EpEBu8Ap3Ae9N,1UWN3w78uGKvB7aH6d25fD4sA0pJr
    1Oj2TxRMm6AY10UX3HYEFeICh30,VTweJSn6Dx3Jo5F.GGZ4Qg3Mk4Vm2Ny7UzP4aAVZ15k9SXDRl6Mo2PX3Cr6Mo39,6I
    eFRs8BZ97hKfDGq7GuRHfB4aPF.P7ZD2aOOX1T,E2.BJrS4sDOnA1l10YA2a8MpCi7Bs9Bf7AuGh43z55o3OYVoTfQnHJX
    Rm2On84u3IeD6qAwF3t71h15zF8kBUW2KgGFXC6pM6cKEZOFu26Y4Hk2Hx10UfEJcBEfGHWMsAOn75aMt82ZIOWE1b7Qc1
    Nu2RaD9xRKgTEnAKqGKZGAeFImQCX3c82dGQy45zB7dLTs5OvFwHNhHAiIEd5KkNIu7QhLNnGVoK5YR,KTj2UY28kAEZ9H
    .AApQPi5MjS6rLPmP0j4HoLPWHgIPr68jHGqBC.NNh2EzAPuLOuV4ZEU.HHY5Lp9LjL3,7VuPAq133fQCYDu7nCqMDz7MY
    83Z7Mu3FoFCuILf4Jg4Fb21u1If2Vv45,5Rn1SaEKc3Jf2ByDHpBLi7Of92Y50WC5nI0cF4YSNp9NalGLY6HrOFh72fAe2
    I.2IcFBuGQfAQwHRYOCZ6Ns6kFCoK1t1IX6Cy2Jo80,P2o3m10ObU7.A4dM9,UKmUQn185k52dc116jEHWGGmHHzFFWQ2d
    2Ju6Tg2q1P,9K,MFqSnJFdM9.IVx1Mo3QiLFcNSl2Ez3Ua7KcKLdLg74WSRaPEvDIwHEt6HzLB.K8jOFyQFX91uD5gD2e1
    2FZGdLJg2RbGLXNTiEUlAEuEUX8AgLDa3TlHLpDUf1KaD8k4JlQk2Rw5MtRRc68XMNZARk33uAvLRd119qEAz3SZAMnT7a
    I8jGCkT5ZPOwFTfJRyP6lV2qM5ZD4r36Y12Li8UnSUn1Ky10QWOMfL5oIDbDMZI6c9Dl7RqG7f6iM9y7Aj2QgHCf15DkQ9
    d7BmF5c6Ul4Jh76z8yG3rB4s6HaE0X63g76ZQFc6SyRGjE6iETv7VgC0Z52tl8HeS1s14EvUAqSQZ3OmIIaE5l9OlBHo1T
    lGIsPaMj22sAVp1Dz9FxHHqMJt93c20uCBi1BY2DwRGd56oVnR3W10JzEUsDFnRSY34s3CW8Ef8EvGBcEYK4rAKWHRf2Ma
    48YBHk1BrDLi126hQFyVLb2Ro2AdB4i1E.97z3QvAUyR8kS2,3QpCPy71eACp2BtC0lPAm5Ov8CbAGlD6Y91oMVj2AsDVq
    4VyAGp6No7IaDQb5Dn55ZFLyBE.6OW6uOPXK9w5QzM2,BDa50zEEmJ9v4Mz32cS0qJGdC4b71YMDqG5Z2LfBCW4Ij8QkNP
    d12FwTUh3IpTSy8UnIMtPUo38d2BtXW5LqKIb44X2Ky63o5Ri98Y9Ol1GfGBn2KdVNeGBr9TZIAi2Ml6Dj8ElItDAg5QgF
    NX6CqAIlE3Wk1BdFItLQw3Vb2jI7bN7eKRp3Ei2DlCRy6JZ4CcELoNP,L3qPJXIBcAFh1FoBJj152W95,LEbO2oRTfHVYK
    6d6DWV2o10At2KgD2uG4,5DhCUqCNfA6cJQk2OsULz9NY85d9YSPk10IxBo113y3QkMMZ70x14a29,N2c11WJ9,1EtRKuV
    0z7m3Oq75rLlH5WIApPRWEOrHa1Dm4FnMGaTR,N3.A4Z3R.JIpVEoOTzB3WA1YFHz4oC9q3O.BSy5e11Cb5DaKCaJT,Bb2
    LbCCqH5Z33a3Bs4Sa7Dv71zMTkDRpI1w9KlBIf50.2H,Q2o11LXF7aCSgFSx5Iy1AyIUXHN.GC.B5z4To9P,8KZ4Qy5HbH
    r75,4UmCQgISp2TtEL.AGuI8v31lFo3QZc153kTN,4OuCBsG3jS8Y48ZQ7jO3a3qJTpF3wENr7EZMDc79k10OzMKq9GW9O
    XLQv3L.B5.9FXO0s5Kj8Fi6Dv4Gh5Ek80.gBQrDU.H4hE0xETkAUu36iEKnF0j40kBQw4SkE2f9QlL2e5Hp4HcBUWPCZ4V
    f4Nj6Ay10rIhDHq84,LIy3v6KZ10kG2n7BvCGYI6.S3f3Dm67WAId6FyKEYBF,3KbBOz9Ii5NY38dECY2hQAbA8qEAe7T,
    AHZ7QpEBg24pA0v5Tc62n8D.CBuM8tJSkMBzVAcGEzFTeEBf6Lv50wJq81c2H.DSZJSYH2tK9.5CzP5ZCIc9Mu26j5SbAC
    .GTtB5tTS.3FWOKZQCo55fSCn32pBQw87X54k6CYDLb50k1IXADcAPXECi1fABXGQoCzF3h25YK8aCAnBBqB,3OyRAt59Z
    AmE9m28d6Kp79tQ,80Y28yFGy6TeJSrKH.CRtHQl10DYQNnDOa96,2JZC0y1Oy4GfIMf91.4MZRDuV1lJSuB.HOd49gO8c
    H9b8Ib2KZ1G,1BvEFqBMt6CkQEuBHf2Pk11i3DkTUb45aILaFEr7zFDqEGg3Vh22..OK,7On4I.6Ph6To74,P1cCPx9JpD
    Ee9RkEJb95fPJkMHx7LW2IuIDg154hHCWAMtEGuALr1Hy83wASt2JXLb64bPK.AEt3IaIErCEoBSoFTZ37sIa3Kd35f7y1
    SwUa63x127i40pJPn8LZSh5RY9AhGHe7Qm1TeKmL3r5Bhu6HgH6.BObEVYOAlGDw5NgLKZ12Sy160bFEYEUkO0r2Mm70hH
    Bg3VjC6aGGdO7gBKbL7zIVo1DmCEg100xKUY5Dd8TZHVsCNj6FwC8v1PY93r87s4Ac79n4O,104w135vF1iFOuNQZ4PiEB
    wCVhA6prBPm6hEDbAA.7VrNDkPHZAa3RY5AwQFgO9r60iFMr5z6V.LLYITt5Oi50pGVW8Ix5h8Ox83h10d10EqHAl3OkCP
    Z16d17yGHgK8n3Sm8Ao9h14h15r33Y3VvF2qL8X7Sx65e2HlVKmJSv7UgCP.Q8rEBm3Jn7FYPLt11Vu3OnKG,4Qj6KZHKy
    IEb2Pu2Mq2Fv7MyOQo11UX16,16SeEVnKUvS6w2DX31x9RuK6f76n25r5NcO2uHBp8bFM,MRuC0uCUfHVlTCy2lBPZ3SlH
    Lj10Tg22eEUn6PeDEvFVlONe36,98aLFd62j32b14S.T8b66sCPb1KcS5Y43r5SrFAm12Br1AgRiV5yJNn8Td91a3Nd54f
    Bb6CgC7iLHzIPqASp20wDBpEAwE0m83y123v7TYHuM7YLGzDIi5LWT7lBHmAJnQ8aJ3Z5Fw3mFImNTZKLq1Ft95yKUpI7o
    KUt2Rh3n7UbS6gH2jDKk73v92,7Oj9y2Ns3TmOKY45j4KkPHr4Dm3In35f48,BcNGcMVXCNaL4uIJrH7pDyNRYC6Z8NnVK
    eDKn7Dk4RdJ4f4MyQFg8AjO4b116eSEtM2o3Ff69eUNz91g3LzBCyAFnEGsHE,I6ue87wSSb2Vw2Gq2IW6RqE8iCQjCk3R
    aC9s8TpL3hFG.E7k7ArQNhFCg8Uh34cIVkNUlV7gU8z6QoDcFLcc25u4hU3r7JaTMsm14Ux31hQ9c86fA4eKOjLKeDArKH
    k10Vf33lUHwDAxE4v10KwIIr1Ej4DmKAtKVW7F.L6p14yLGs79w18zIOX1S,9Nt56i9Pe8HaCJp9MWL4dCQiF4pI8.FAm1
    0SX56i8SsANvO6k77cNGp95h12GaI4n97,2Fv9FxJ3c4Uq97,KIoL0vEJlJEcI5lBBw3GmGKc7HXJTrDEY82,42XQ3.ATf
    8PcP4p2IzMLgNW31c4OZBDX9EbKUo6V,FPm101n1Ll151kQD,ANv2Tw9FyD5oK2,A9kFRb5Fq2Rz89uOHu12Lf9dSLq82y
    VLpRIYB5vLHZP0k5L,4G,8EjRf2Ni4QoENwR6l6To7PpKOsKFzPPiFUp1OcL7.Q1n6Rr8BsH4y77c7Rf5DpJGhT2.JSh5B
    k5V,8NxK8a42nEKa3h5w3pMC,GFs3XFz26m3kM8tADmM3wR,U3p2Tv10DmJGt92jUQqUJh1DwRNu11IXNOaCCX7Rx11VwV
    TvG9g29a6uXWBz1UY48m16vB9rBLlSIiG2r94v8KZ70k9ObP6Y5VtBHXS1i4Cd3HZP6rC6g9qLf5Rp6RnH6aBAt7Mh8OoB
    p1SdCGyDNy21cH0l30XOWHHaL4X9Jz2o2Ab117o2TnS2p5BgOKkGTzFLjK3g6JvEDoIKfGEwPAx8i106Y63.TNd6HgpK7a
    13Vx5QqUBm14Dr77aEJsF3bO6k63X63fDQrLAw73kUCXU4kT8v3JW1BmMm52s3SW6Sa4TmEHh8QZMGc7RW61p70c1SkO2p
    E6j6Z36YOD.QEb85iLQaSAn19h1A.E3q2A,88o8Cg6GtGPbHlR3sNNbBRk7Eg3q3EcRVbFVaAPv36bQMWAUxOOl115kUUl
    11Mo12IlV9W55v5UqLGnOQYUAX43nIHu8FjFu9NfDRiACzPSyUVX2Pu17l86aNYJDw1t63f1Ly60a9OzLEXPVwF5nRr4Ro
    BGe3TyS1lSRkCPz30vNWDJ.L3r8DXDEgG4WMIz3NX4FY2NYJ6cLHb69tC7Y3FjK3s2NsHmFDX7IdQeAHx33zH6uDHYJNXJ
    e50jFGWL4r5Q.DTe5TrF9o6UZ7Tr51a8IjKU.P6rDnKUeF3XAAn7BoCCa67z8AcADz8CaDNX7Se81d26w51w35bCKz80oN
    HkV4,OUq58vG6oPSZ1Lc1Q,53.GBqE0z70cN2dNKaM9tU8cMTj6QjOV.4Aq7PfAHc80X5CcH8X37g72z8OY11t1Ie4Tg5I
    e3Ms12EbBVW72gB1a5JyPTnP1oE.8NxGPhA1.BSX9NWI6l8Ou2MY18h47g32f3HnBQYDGs2HX4IfDGX16z8FzPEm7Jd4By
    6YACZEVjO7wOi4Ln6Ul18q4I,92tBn3Rw5Sm45uH5wSTf8V.CDYFEZ1Ke9yF3wXW18jGLbKd5AdA4g9NW3a9G.E8,2Ju3F
    j12d6TmM6hK9oBEhQCW62n4Q,2Ft3Fc8G.11Dt2iPGoMRl4Nk7LgF9s7Il9DW7DvH7z4OnH2WDHn5AeQ6oJCf5RjFBaFQr
    5VqCC.1x23iAHl51z9e7ArAEiGNn3VjR1wE6jAKnQ1m36.3SsCQlM0bEPq67iGH.RUn7Pm7IxAErL0eBLkLBvKAs8Pf9Lx
    4UhL4aNJ,5Ho5RXCSo4QnM1m2In1AhQVnJQY6GkT4X8Oe7X7OjAFq5Tk7EW74uU0nGVw3Cf1JbDTZ1JWS9wPKhACwGl96n
    GTWN5lMQq6Qr9OdJ9s9Tx9BjVQwP2zILiP9dHMiFCZF7s90g1KpQ2Z57.B1c9TgT6Z97y9Om97W57kBNlAVmB3pK4zTLiL
    8pC6sHMXQ6uL4x44b79jC8.BOfFz3Vg3LmWa81r8Z1Jg1JX8FW5Rr2JX8e7r16HgVSj2Gd44ZLPcLNt2Dk2Cz5EkCG.FCx
    CAcAJZL0iCBeMSf5QuJPq18EZ6q187a18Bfy2sPViJIx2U,Ae3Kt2Cq1Ykcq11Rm50nT4dDuC,o1YT1.SVjdMZkk2WkwXW
    w1cehP5eP3biZ1WeHZMTcO9pokl2klsx3y2n3W4c6,3Yc1z2c3eqATaATzecn2hu3qb1ynjw1Zd3W2z3Y1n5ccc2h1iqlt
    .1q3a2e5p3q1x2WZ2,1.1X1qe5k3t1cxk1.1W2scc1a1w3Y1pZjo1qg12zEMYEEhy6q17TcPLr82.LGj69W10Cw2JZ141l
    3Pe31t1gRFsRFlIh3I.3Sf1Bh1Bk1AdSRu3kSU,P6W3R.7LbF4vMDW44tN0xkwZu3ZweSVukXWesXWcuXWogZgXXccXWee
    XWggXWiceeeeeXWcceiecXWcXXecdicXXgceXWeXWeXWcXWSCx1a11AeiZ1Yl1eZkmuuoikc1gis1q31pgcf1et1eZegbn
    2Wrl1cvew1efjhg1Yg1Wk1.fi.bsseVJp3Ji3AXsXW1a14a12,k1sFWF1W2UWCDp6F,m14Je13Np5KuB5qBMt3Ad5ynDy3
    .qwQnebqktXW2y2Zm2m1w1r1urZ1diqd3sp1n2k1y2ny2Zy3iecZl1r3whq1fl2.c1X1X1e1.h2u2f4im1io1a1r10Io2N
    aUHrG7sgc1Yh1.2fsekc1cykz1oc1q4t2Wp1yXWt1nu1dqt2is2r3y2o1b1d2un2t1o2bk3g1Z2n3.q1f.XW3ht4m3isXW
    5f8s5jnd6s3x2,2Ynf1w1,2p4q3dyl3eZe4x4.ebeXW4c3n3uXW1fs1lq1lp3sx2v3u3x1yks1cci4Y1vxLTZM1ax2z2Y2
    l4k1w2lt3bu3YvtXW,2hh6k3j,7utqZ1s1gXWz1W1Z3vs2ey1kc5x3w5gwe1k2p1kpth2k3,1oh1x4.b2q7V,82u4n4q1r
    1u1w1t3vd5y1Z2Yfj1w6Tn6Qa3Wq2qg2Zo1j3i1b1l3gbl2e1b1u2e2o2b2g1d2kJJzs2SviJFkJEbib34p4Heemo31o1.
    3i1w1W1Yd1m3g2v4e1cn6s4q8hq1g2k4l4W2b2Z4i.3kk1n2W3t1s1X8g8vn8mf3j1Yi1f1sh3y2k1l2q1v3yXW1,2ak1Y
    myb2m1wq32dCmAKmB0n5Rb9cw1fZ1e1mg1X4imXXc1d2b3kc3j1W5Y1c1xjx3kXW1lz1X3m3e2d1iz1.2tZ2yXW6b3a3c1
    rgyyXWc3dXWj3qz1W3y3f3q2d1m2Z3WXW1fc1ke3y2o2k6v2g2v1g1j1a1fh2W2WXX4fd2w3W4m4,2.o3Zl1.2Z5o4h1j6
    g2bXW2ri5ay2z5k4z1sXW1n1cp1p2uryXW2lXW1uy1ZSRYSNj1jgt2eZ2hc2mk2u1,1.2t2a1ipe1Xo3c2byj1YXWq.1w2
    iekg1gr.kikZ1e3Feshd2YsXWhy1YmeeTh1b1eekz1YXWnqc1q1d1u1ZZkz1.ry.1c1p1s1yXW2gZorj1n1i3y1rrq3W1Z
    1g1b.2XZ2Wu.1mgNDkNBv.Q.guiceqgewiomKAkKGZ9KwegeXWubyZi1kmjqcesz1YpXW1wf.1l1gZny1m1fmwl2Wdsqwe
    1W79yKFjVScVSd2b106agXaoekegeeeeXWcXXTHh1aju1Wh1qfqtNAYN8ZZsycHDYGVjiyl3g1h1k2de1smXW1veu2a1w,
    tvb1wc2Z3i1z5mXWcZ3n2o1e1qg1e1X1r1Wj1W5a3Zr2wh1b1g2j6wk1Z.2,w.1y2W2u3m1n1e1Y1y2a11nRDkCrckccXW
    kciXWcccXYceeXXcXW13UzI1e82r52Y2Wo1b5q1zugn2fXWuc1Y2e2mg2l4sXWl1r2h2.r2g,e3x2c1w1W3u1b1t3mi4Zd
    1it1y2c1,m1t3iec2Z5.2b3Wc4b3iXW3ng1w1pBm5db1q3Y4,2a3a2tpf3y6t6a5z7y4e2X1y4m5d2m3dXW2bx2W9u2z1p
    4o4y4t3xc1kbf2Y2d1u4X3e2dCe1vXW2d,1v3km1i2q4r2Z2Y6YgZ1fjsb5mn2b1cdw2Wy1Xc1W2uqn1.f1s1WADzg1ab1
    c1eCNmINWR6r45XsMKcMKXP5m1KX2BW1yc1Yqridyt1yZm1u1hfqu1gXWpc1iyXWb1o1XslKQbKRuqikhoOJtmZc1Hx3PX
    3QiqEnFceHLkG9bZgHKmHJnU0WVCx1Excs1wXWlv3e1,xk2.2Xd2o1p4mXW2p2u2ht2a1ed2qc2d1c1X2y2m1xu1p2k1eJ
    7mJ4b,2fe4g2y3p2Yc1v2oe.1t1Yzg2y.Z1wiqDimCbu.2bc1WVHecXWcibeXWgeckcXWeceXXcXWcXWccE0nccceXWge.
    cXXmcXWggegiXWmeeXWcXW1u1lgXWeeXXgXWeXWecXWiceZgcXbeXYcXZcGBtBGiBQfBMeDLmEGle1yvd3Yx1W1rfyqZ1y
    vIAeI7b2Zbp2f3o1y1u3a3hZeobb1ZZ2m1uhbg1.r1a1.zzXWkg1esXW1p1m2u1nHJYXXOAXmu1j2a3w1z1xq2i1W3b3er
    1W2b1fi7g1q3Z3c2Z3p5w3d2f2i2l2s2e3xt2s2w4x3w3iXW2yXW1d1g1z2Y2W6j3o1a2h2k2lbwZ2X8w2j1te1w2n5mAw
    7b2eXW2l2u3f1ur5k7f2y6a3n2m1z1u2m1p1i1o2X4f9o4hXW4k4h2dd1k2cw1g1Xc2m2d1Yq1i4r4u5d7c3Y4b2sXW4y7
    d5cj6c5Xu2j5q1h3v1h3Y2g1iZ1q1b1g48w1u3TZXWid.XWjyXWkqHSacgXXcXWcZcXWcceXWcegcXXqcCvMCdwggeZgZo
    FRu6Fniu1Ycc7T,BsXX1s1WLqM,1c1h58i4OzDr1mdiZCTaCQlt1d.mur2Yyo1ur2a1yXWseJ4qXWeiceiXWcXWbkog1Pb
    eXXcXYBMd3a4bqq1WXWimcce7Or2s7.9W9qDIwA1rqsngwcZmoeXXmohko3Fx2Y1k6Ecig2jA3cQ4vN8qdp2qCRbCRevjc
    me3YXY,1pc1ivsCSlCSy.kel2YXW1vsCUlCVy5Ko5If1n.1f1s1kgm2a1tXW1m1Zq1eXW1XjKHr16oJDej1W9Bv9C.m2cD
    AjDAg,k1tB8b1ecse1eMNoXXcgXWMIl67d68cF3aI6dSSaSRz2qsbZqcgg5As1wjm1.ipvk3m1z4kee1qc4c1lw2d2y2n2
    .c1.1ucxn4Yv1e1c2guRvAw4.5e7NtZkiXWBFcike1cXWpmotq1Wn1eui1YywCUbZ6w2ady2j1os4o5um5Y4wv2.k3iF7s
    Z9Uv6eGk4Vscoq.XWl96j98c1ZXW1wXX1v1y1lmpk2i2W1lXW3Z2spi1.3anm1d1iic1Wm1f3Wi1X2ek1e1Z2W1aj1kJ6m
    AbcXWK0t1eq1f.XW1cop1gl1We1oXWrf1m.je1s.1Xewi.XW1Yio18dk.dd1e1mms4Tiqb5Eq5EXwdood4BZ1o8Ky65eXX
    gZcXWcXWgebiXXmXWmZeZeXWcccXZcXWcigXbcXXeXXcZeeXXccXWcXWcZceXWgXXcceXWcgZgXWcXWeXXeXZcecXXeoXW
    beiXWccXXgcXWex1WXXeecXWeXXcXYceXWbgXWcXdecXX3pELdiFDyEFf1oro1uEB,EBwZ1wr2ib1sI7.2IrFJh1Unkiku
    Sjc4wKFgckXZkZicZcXWgeXWccXYcXWcegceXXcieXbifkKEZccsd1Wp1YXWgw1dZ1eZ1gp1kibbmf1w1bue1a1Ximux1u
    xdgc2a1rb2Y1de1Wr.ht1s1aroj1ig4Lu2Ef6zXWmkcy1ajwfik6Raiquce2Y2g,iy1q1f1icw2q1z1f1kz3anjo1Z2spu
    u2i1i9VX5Ls53dcIo43kcckgceXXcZq2j2s.emi1mo4Hc7FioekeXWcikXWeXWcXWeXW95pm1oc1ahcZ2y1tb2a,sfm1l1
    ky.,1q1zspb1sk1t3ioXWhk2d4e3h1k1hll3cg,1Ycef1s1o1xmq1f2gs1fdn.o4e6X5uXWd1t1Y2f2c1y3n1Y1q1ntw2.
    1wl2sv3zd2o1j1f2o3s3pqb1oo1j1g1Zs1a1Wr.2od1hw1ak1oe4GjwcXW1Cu3HjeuhXW1at2a1v3o,z1Z1ie1ZiZ1Wu2X
    3sc1h3Y2p1ae.y1p1YZ2W1kXW1av,u2d2izkqq1y1Xu1aduXWg2czb1emt1guf1cqZ2R.eXWc1n35o32dXXscleyenXWsk
    icguiq31kme5Ym8W4SZcooXWc1JjBJdBKowZcg1YsXWgkiXWhd1c1a2OkDSjCHm1Wm1Yfieii1Ft8W3Wo9q5gG1yf8KZ1a
    1Yd2Y4rkIjc2GakbXW1ibZ1Wlk.XWvci1eludg1aXWmeXXkZk2Mh92q8Cj3e1s5g1YBfsdbs1cXWeg1XXWw1h2kuXW1h1k
    c1l2iv1mqcyctwuklfov1onXW1WXWn2kkkxi1asifwc12jsoh1efJFpI3uofcqkg5WEo62y6rsf1mhmmZ1wee.44cecXac
    8zyc45feXW1agFHdFIa25b2Y1s7k2w6Y3tBW2y41geeXYH6hH6oecXXcXWiXWeXacXZccXWcXceXYmXYeXbeXXcXXeXWce
    2MjqwXWc1ufn1Wc1FyZm1Qa1QbgciZidqXWi7gbgcZig16p2i2a2mZOuciqf1Yzw1Wmgwg1PsXWG8dG4miXWem5Bv5Cmc3
    wXXeZembbii3esesbkXWk"

/-- What GBK has beyond that plane, or otherwise. -/
def gbkMore : Grid := .ofPacked 0x81 0x40 191
  "170ccXXqeioXXceeiXWccccigXXccgmgceXWmXYcXWcXaecXecXbceWWkkXWceXXimiXXecXYeXXsgeXWcoXXgcgXWcgXX
    cegXXccccXbeXWkXZkXWgciXWeXXeccccceXZcXWcXakccuXWgccXWcXWeXWecXYeeXXeXXeccccXWcXWcXXccXWcXWcmc
    eXZcXdcXXgXYcXXiXZeciccXWcgXWgccXYccXXcXgWWXWecXWccXXgcXWccXXeggXfcccXYcXXeXXceXZcXYccXccXacXd
    eXXcXWgXYcXWcXYcXpccgXWcXZcXbeXncXacXXcXfeXYgXYccXZcXeeWWXXcXacXicXxgieccXXcXWgXXccXZcXWcXWcXW
    ieogXWgXWcXWeXWeXYcXWgceXXcceXZeXWkgXXgXWcXXceceXWccXdccXWeXWcXacceXWcemkXWgcXWeXWeXXmcXWcXXcX
    XececXWcXWmckXaceXWeXWccXWWWXYccXWcXXcceXYcXWcXecceXZcXbcXWcXbcoXYmXXgXeeXXcXXcccXYccXXccXacXY
    cXfcXceXXgXYecXYceXYgeXWcXWecXWcXXcXXcXegXWeccciXXeggXWccoeccXWigecXYcXWcgXWcgXWWWXacXWccXWccX
    WeeeXYcXbcXYcXXceXZmXXcXWcicXXeXWiykgXXcecgqgXXckcXWikeeXWeeccXWcXWcceXYcqeXZccccXcgiXWgXWcccc
    XYegcgXWgcXZeqcceXXcXWcciciXWuceiXZmXWeXXeXaceccXYecXZgXWcXacXYcgXWWWcXWccicXXcXYcececXWeXZcXY
    eXZcXYcXWiXWcgXaiXWeckXWkXXccXWcXXeXWecXbcXdcccccceXZeXXcXWeXXicXZeccicgXWcXWeccXZeeXaeXWceXcc
    XWcXWeXXeXWcXYeXXeccXWccXXcXggXZcXWgXWcXZWWccXXkXYcXYcXYeXceXbeXXcXjcXfcXbcXYcXhcXdcXWcXWemcXa
    ccXWeXWeXXeXWgXXecgXlcXWcXXcXYgkXWcXZgXWcccXYcXWcmXZcXWqXWcciccXXcXWeXXeXYWWXWkXYeXZeXbcXYkecc
    eXXccXXcXdeXbcXWeXWceXWgXWceXXcXcccXYcXXgXWcXWccXXeXXccXXcXXcXXcXYceXWcXZcXZcXYcXicXbeXXcXWcXX
    cXZcXacXZeXlceccXXcXXWWXaeXZeXXeXceXmcXYcXXcXfcXXcXicXaeccXWcXWcXWcXcccXWcXZccXYgXWecXWcXYecgg
    cXWcXWicXYecXWgcXWecXWkcXZccXWcXheceXXcXXigcXWcXYeXWecXYcXYgWWXWiXWeXWcXaccXWcXbcXXeXYkXWeceXZ
    ccXWcXXcXgccXXccoXWcXYccXYcXXcXWeXWccXXcXbeccXZcXXcXZcXWeXecXYcXbcXYcXWcXdiXWcXYcXmcXbeXicXWWW
    XaecXWcXZcXWeXacXWcXZccccXXcXXecXWcXWccXZcXrcXgeXuccXWcXccXjegocXWkXWecXXeccXYcXWcXWeggeXWcXXc
    cqoXXeXYcXWieXXgXWciXYcXXWWceXdgcXWeXWcXZccXbkXWccXWccXWeXYccXWgcceXYcecXYcXYcXWcXXwXWcXWiXWiX
    XcXXcXYceceXbecXbeXYceXZcXXeXWeXWcoXZeXZcgXXccceXYcccXWcXacXacXacXbcXWgccXWcXWcXecXZWWXWeXWeXa
    cXZccXYcXWcXZcecXXeXZcXceXccXWgXfcXWccXfceXWcXYcXhcXqcXXcXtcXhcXbcXhceXWeXWkcXWWWeiXWcXZeXWgec
    XXcXWgXWgmXceXZeXWcXZeXWgXYceXacXbeXZcXWcXWeXjgccieXXceXWeXXgkecgXYgXZcXZckXYcXeeXagXWcXYcXgcc
    XdceXWcXXoXXceXXcccceXWcXXeXYWWgeXWcccXbecXXcXjceiXYcXXeccXWeeXWecXXcceXXgemXXccXWcgXWcXYcXacc
    XWeXaccXYeXZiXWcXWeiXXiXXcXWeXWcXWcXWeeXWcXXcXWcXWcuXXcXWgXWcgXWcgXWeXXoXXcXZcXZeXWcgXbccXWccX
    WcXXeXWcXYgXWoeXWcXWcmcWWXXeXYcXWeXYcccXXeceXWcXWccXWgcecXXcXWeXceXXeXZcXXcXWcceeXZimXWecXWeXZ
    eXYceXXgXZcXYcXYeXWeeXXcXncXcccccXWcXXcXbcXYcXYeXbcXYccXncXWcXZcWWXccXdgXWcXecXacXXcXZceXZecXl
    cXicXdcXaccsXWieXXceeXYcccXYeXWcXZkcXXgiXWiXXcXWcXbcXWeqXWcXWcXWcXWcgXXcXYeXagieXXieXWcXWeXYcX
    XcXXcgcXWWWcogcgoXWcXWekXWiceeXYieXYgXYcXWcXYcXXesXWceXXcXWcXaeXWcXYeeXWcmXYcXcegXXccXXeXWcXYe
    XWeXYccXYicgcXXccXbcecigcXWeXWecccXZccXWcXXicXXcXbcecXZeXWcXYccccXYciXWcXZeXWeXWeXaeceXXWWXWcX
    XceXacXZcXWcccXWkcXbccXXcXZcXcccXXcXegXbcecXdeXWeXWcXYcXZcXYcXWgcXYceccXXccXWcXbeccXYeXZcXXccc
    XtcXccXccXZcXdWWXYcXZcXWeXYgecXWeXZcXWeXWcXWccXXeXWcceXXeXWcXYeXXcccXWcXjcXXeXXecXXcceXWccXWec
    ccceXccXWeXXciXYeeXWcXXeXcccXWkXWmXYeXWcXZceXWcXXcceXXgXXcXXceXYceXYcccXWgXZccXWccXbeXWcXWmWWX
    WcXYccXWcccXZgXXceXWcXXcXXccXWcXYcXYcXYeXZcXdeXZcXZcXYcXYcXucgXccXWcXacgXWccXWcgXbicXWcXXecXXc
    ccXacciccXWeXYcXWcXWceXWceXWcicXWcXZciXXcXWgXWceecWWcXYcecXWcXWcccXYcXYcecgXXeceeceXWciXcceXem
    XXggccXWcXXcXWcXWgeXcceXYcmeccXWeXZcXXcXbeXbeXXgXWgogccegXeucXcceXdcceXccXXcXXcXecXXgXYceXWccX
    XWWXcccXacccXYcXWcXWccXZcXWcXeceXXcXXecXYcXXcXZceccXgeXXcXccXWcXXcXYcXXccXWcXlcXWcXWcXWecXWcXW
    cXYcXWcXWcXZgXWcXXccciXXcXaeXWcXWeXeeXWccXXcXWcXWcXXcXWWWXYcXcccccXXcXacXXeXgcXYcXeccXecXgeXac
    cXaccXYccXXcXbeXZcXWcXccXbecXZcXXcXfcXbcXWcXXcXXcXdceXZcXccXaWWXXceX3nkXWcXecXYceXXcXYcXWecXWc
    XgcXcmXWcXiceXYieWWgcXYeXWcXXeXZcXccXcgcXbceXWcXZcccXWmccXZcXceXXcXXccXXcXXcXbgXZcgiiXXceckXXg
    ceXWcXYcXWgXXeeXZcXXecXXoXWcXXgXZccccXWcXXeXWgeeXWcXWeXWeXYccXXcckgeXWgXYekXYeXXecXXcXWkWWXXcX
    WcicXWceXWicikXWcXWcXWcXXecXXcXYcgXWcXaccXWeXWcXWgcXXciXWcciegiXYecccXWcXWcXWeXXeXYcXWeXXcXZcX
    WcXWeXWccXWcgXZckemXWeXWcXWcXWcXaeXXiXXeXYcXYceXXeeXWccXYecXWccXXcceXccXYcgeXWceXWcXWcXWegXXcc
    ccXWccWWXXccXceXceXYeccXWcXXcXfcXWcXjeXXceXWcXZeXbcXXcXWcXWcXWccXWcXYceceXWecXXeXYcXXcXXccgcXW
    cXXkgeXecXYcXccXXcXWcXZcXXgXecXXcXYgccccXWcXbcXYWWXYeXXccXecXXccXXcXXcXaeXXccXXcccXbcXXeXWgXhc
    XYcXZcXfcXWcXWcXaccXacXbeXfceXgeX,cXceXbcXbWWXfcXXcXmcXWcXicXggeXYecXXcgXYcXXeXXcXXcgXWcXWeXhk
    ccXXggXWiXYccXhecXXcXYcigcXbccXXcXfeXZcXWcegXfcXcgXXWWXWcXicXYcccXhccXZcgXZcXXeXYccXWcXacXZcXY
    cXYcXXeXZeXbcXXcXaccXXcXdcXecXZeXecXYccXacXecXgcXoWWXXcXecccXXeXXkcccXbeXXeXYcXXcXWcccceXXecXY
    eXWcXWcXXeXXiXWcXZeccXWcXgcXgeeXXciXbiXXcXYeccXYccXWW3Z1P2fWaFLyW5qLwXeWPm3EBwXWeXWiXWdXWeXYWX
    pXWhXWlWWcXWW6d3TMrXW.EJsc1Y1YDYg8yXY7wsg3W1gXW5o19aX1Y.XbWWXdgXX2mXW2iXY2g1Nf6NyuXWW1aMSxWWGx
    gWWHqW1zMSYXd17sEuXWyXXe2eseXWe355uRccWW3FCd8HYWW92ZWY8Ew6ZXW6aXWFn9mXW36QuXecXYcXdWWXacXYWi37
    6fW3d11DiXWceXaeXWsXWegXYccXacXXcXYcgXXiXWeXWcXXicXWcXWcXWgXYeXdWWXZcXWccXYcXccXfecXWW2zXhcXZc
    XWcccXWcXWcXYcXYcXXcXWcXaccXWgeXXcXWeXYccXZWWgXWcgXbcXYccXYcccXXcXYcXZW2zXgceXWeXYeXdeXacXWecc
    cccXWiXZcXYcXgWWXcccieXhcXWcXZeXXW2zXYcecXXcXXcXWccXfccXcgXkcXhWWXfcXdcccgcXbeXXW2zXWceXbcXYcX
    cccccXYgcXWcXZcXWegkceeXWccXYcXWcXWeeXYcXYWWiXceXXcXbccXXeXZcXXcXWcW2zXYcXXceceeXWcggXZeqXWeXW
    gXXiiXWcXYcgcXWcXWcXXggeXYeXWcXYcXWcXWgccXWWWXXccXXcXYcgcXXecgXWgcXWcXWgXWcXXcgXWcW2zXceXaccXZ
    ccXYcXbcXXcXccXWceXXccgXWcXWcXWccXWcXWcXWWWXdcXdcXWecXecXWcW2zXWeccXWmcgXWcXXcXZcXceecXXeXWccX
    WcXWcXWgccXfeXYecXXceXWWWXWccXZiccXXecXXcXceXceW2zXZgecXWeXgcXXiXXeXagXWeXgecXWccecXXcXWccXZWW
    cccXhcXdcXXeXZeW2zccciXYcXWccXYmXacXWeXXecgcecXXcgcXWeXWcXXcXWmccXYccXYccccXWgXXWWXXcXgkXccXYc
    XbW2zXYccXWgXWccXXegXWcccccXckXYcXYcXWcXXcXXgXYcXXeXXcXeWWXZcXXcXZccXWcXWcXacXXcXbW2zXbcXecXZc
    XjcXZgceXYceXdcXWeXWocWWXWceXYccXbecXZeXWeXYcXYcXXW2zXccXgcXfcXZgeecXWcXWcccXXeXWcXWcXacXXeecW
    WcceXbcXWccXWceXWcXYceXZcXWcXWcXWW2zXWccXWcXjcXXccgcXacXecXZcXlWWXccXXckXYgeccXYcXXeXWiXXeeXWW
    2zXXecXXeXZcXfcXfcXecXWcXYgXWceXaccXYWWXaeXWccXXecceXXccXWeXXccXWccXXgcgW2zcXWccXYccccXaccceXW
    icccecXWccXfcXWeXWccccXWccXYcXbcXWWWcXXecXYeXXeXXqXXcXWcXXcXccXXW2zXWeXYcXYccXZeXWcXXcXXeXXcXX
    cXWcXZcXYccXccXXeXWcXacXXWWXacXaeXWcXhcXagW2zXfcX1ZeXagXeWWXWcXbeXWceXXiXWceXYcXXcXWgXZcXWW2zg
    XWcXXceceXbgcXWcXWeXbcXacXccXWcXicXaWWXkccXYcXXcXXcXbW2zX1scXcWWcX,W2zXicXbcX1fWWX1WW2zX1.WWXW
    cXZcXZcXqW2zX1ZcXscXXWW1YkmXW1s.oy1ak.1qccXbceXeeXWW2zeecXYceXZgXXcXWecXYcXYcXWcXccccXZcXZcXWg
    cXWcXWcXbeWWcXZeXWeccXXcXYcccXZeXWcXagXWW2zXWeXWcXYcecXbeXXeiXYgXWccmXWcXXccXWmXacciXWcccXWeXW
    cXXiXYccXXWWccXieXacXgW2zXWeXWeeceXacXWcciieXXggecXWcXWcscXZgXbemXWcXWeomccceXYcXXcXWeWWXWqccc
    XXcXhcXWceXXccXZcW2zXbccgXXegXXeXZcXYcccXXeeXWcXYqcXZccXYccXacXWgXZcXWWWcccXccXaeXYiXWcXXccXbW
    2zXkcXXcXWceXZeXaecggXZeXWcccXaeegXYcigocXWcWWXZcXWcccXXcXcccXYcXccW2zXZggXYeXWgXWccXXcegeXYgX
    WeccXWgueXWgXXeXWcXWcXWemkeXWeiiXYcXXccXWcXWcWWccXZsXWcecXWecXWgXeeXWgccigcW2zXXcXWcXWecXZicXZ
    gi.XbeXWgXbeXWcXYcXXeXYcXWeccXbiXXWWXWkkeXWeXXccXWccXWcXYcccXXegXXcXXeXXW2zXXgXZeXXcXXcecXYkcX
    acXXeXakXccXacXXeXccXXWWXccXZciXYccXZcgXXcceccXWW2zXacXYgecXcccXWcXYcXhcXWccXXgXWcccXWcXYeXWcX
    WecXWcWWXaceXWceXZcXXcXfcXWcXXW2zXecXYccXXcXWcXYccXdeXeoXZcXYgXfWWcXWcXYcXZcXXcXdccXYgXWcXXW2z
    XXecXbcXfeXbcXXccXXgXaccXbcXbcXZeXWWWccXacXbcXYcXjW2zXXcXXcXZcXfcXYcXkccXicXXcXYWWXhkXWcXZcXXc
    XXcXcW2zecXWcXbuXbiXZccXaeXZeXWicXWgXWgXXcXZcXXcegXWiXWcXXecWWXWeXYcXYcXXekXXeXYcceXXiXWcXYecW
    2zecccXWgcXXcXYcXWcXWcXWcXXcXWeXbgXWccXYcXXccXacXWgXcccXXcWWcXYiXXecXWcXWccXZcXXcXbcXZW2zXYcXW
    gcXXccXYcXWcXWcXZcXXeXZgXbcXYcXYcXYcXXcXeWWcXYcXYcXacXcceXYcXZeW2zXjcXacXWcXXcXXeXaeXacXWccXbk
    XWeecccXYcXXWWXXgeeXWcXWccXYcXXcXZcXZccXaW2zccXXcXZcXYcXYeXWeXWcXYcXXceXWeXZcXWiXWcXbeeXXeXWcc
    XXcXaWWXWcXZceXZgXZcXXcXYeXYcXXccW2zXecXWcXteXacXocWWXXcccXWcXvW2zX.eskXXcXXcccXYceXYcXXcXXcXb
    WWXacXacXqW2zX,cXdcXqWWXvcXbW2zXdeXccX1jWWX1WW2zX1YcXwWWXXcXzW2zX,cXZcXuWWXuyiswq1s2W1iW2z1sXd
    cXYecXWcXccXYcXaeXbeXbcXYgXbcXWcXWWWXWecXbcXXcXpW2zX1.WWX1WW2zXkg3aXWiokeXXccXWcXWkXdcXWeXYeXZ
    cXWcXecXWWWXWcXhcgXWccceXXecXYeecXXW2zXWeXWegXXeXXcgXWcXXcckcXbcXXecXWcXYcXcgXWeXZececXXcXXeXW
    cWWXWgcXWkXZeXacXgcXWcXWeeW2zcccXZcXWccXXccXbeXXcXbccXgeXWcXWcXbcXcWWXgcXqW2zX1.WWX1WW2zX1Wi1k
    wkueXXcXYecXYeXYcXWcXXeXWeeWWeXZcegXWekXWcgiecXWcXXgXXcXWoXWgciceW2zXWemXXcXagXZecXWecXWecXWcX
    ZckXXeXWcXaecXWcXYeXZeXbceWWeXYcXWcXZcccccccXXgXWcXXcciiiXWcXWW2zcXWecXWcXXicXXcXXgXXeXXgXWccc
    XYcXXcXYeXXccXocXXWWXWcXXeXfccXbcXdcW2zXWcXWqcXYcXWcXWeXWkXXeckmXXgXZcccgXWgXbeXaeXacXWgXYeXYc
    WWXgceicXecXdW2zX1.WWX1WW2zX1jcXlWWXdcXtW2zXbcXtcX.WWX1WW2zX1pcXfWWX,cW2zX1YcXwWWXzcXXW2zXdcX1
    rWWX1WW2zXkcX1gcXYWWXqyic3WogXWkw1i2agW2zmwskiesik.kXWcXccX1fWWX1WW2zXxi1eowieeceXbcXXcXWmXYge
    cmgXWcXXeXWWWXYcXXcecXWicXZciXhecXWW2zcceXXcXWgXWcXecXccXWcXWcXWcXWgeXWicXWiXWcXWcXecXbgWWXYcX
    XcXWecXYceXWciXXgXXcXWcXZccXWW2zXecXWcXWccXZeXYcXneXWcXWccXWcgXWcXXcXcWWXWecXZcXccXZccXXecXXcX
    ZW2zXXcXWcXbcccXWccX1jWWXXekXZceXsW2zX1.WWX1WW2zXb1megegsiX1acXWgcXWgXXeXZWWXXeXzW2zXacXWcXxcX
    vWWXfeXhccyiXWcegXWkW2zecwXfcXWcX1kWWX1WW2zX1.WWX1WW2zXnm1akgXWkXWgyeXbeXYgccXXgXWcXZeXYccXYcX
    YWWXXccXYcXYcccXdccXbcXXW2zXWcXacXXcXfcXXcXfcXWcXceXYkgXXcccXWcXaWWX1WW2zX1.WWX1WW2zX1.WWX1WW2
    zX1.WWXWcXWceXWiXWcegeXYgycesiXZkXWoXWoXWiXWW2zcX1zWWX1WW2zX1.WWX1WW2zX1.WWX1WW2zXxkemcgmXWgye
    cXXcegcXYeqXWecXeeWWXWcXYeXWcXaeXdccXacXYW2zXecXXcXWceXZcXYcXXgcXWcXXcXWgecXWcceXYcXdcecXbWWXa
    cecXWcXXccXaccXdcXWcXWW2zXaccceXZcXfeX1bWWXbeXWuXggXXeXZ1COm4y1w5csW2z1uXYccXWgmXXcXWeXX"

/-- What GB 18030 has beyond GBK, or otherwise, among the characters of two bytes. -/
def gb18030More : Grid := .ofPacked 0xA1 0x40 191
  "3ICkX1zWWX1WW2zX1.WWX1WWfUaXaW1n33B,33CaWfXXWhXXUtX1zWWX1WW2zX1.WWX1WW2oIyXfJjX1zWWX1WW2rDoXcD
    zX1zWWX1WWt8YXcWtXcWhXXWaXWWXXe9pX1zWWX1WW1W3uXjW1WXiW2rXgWwXWWX3ISzWW3ITYXYW1aXqWtXWWXXWWWXYW
    1e2RQn4zXgWW2RVqXhW2hXkW3W40,X2yW3WX2zW3WX2zW3WX2zW3WX2zW3WX2zW7Eo2TyXZW62W2UXX2yW3WX2zW3WX2zW
    3WX2zW3WX2zW3WX2zWl2QUj2SPiXX2SPf2VW2v2R,e2SPe2P8X7wv3Obu5Dm5j2NG.2N5l1Y9gAd2N5uXW2MDzIY7c73p2
    SOsXW2SOn8QwGq9BZA8qA8feXW2SOg2I8rhAFZAIcFqOu1h2GVmWW2GIXk5e1aCCdD7y3eeiXWcXW1qf1wZ2F9.XW2DRbf
    XX2r2u7aXb9i2DBk1VvX2y"

/-- **The grid of Big5**, by the two bytes of a character. -/
def big5 : Grid := .ofPacked 0xA1 0x40 191
  "O0Y37Gw37GtXW37Gw3FEv3FFqZi1zDZ3F0rZ3F2uHgHb3UPt3UPyXYGi3FKp3F1.3F1x3F2W3CB,3CCY1uBqXWDfXWIicI
    jXW372fXW372gXW372rXW372sXW373bXW373cXW373jXW373kXW373fXW373gXW373fXW373gXW1iXWW1XXZ3F4jXWeXW8
    0YXW7Upd3FDaeg3FC,FPfNLw53ng1vZ1w3oZ3zZ2hZ1yZ6Em8PzCl3FQiAf3U7b3TNwXWeXWdXW1eXXAsc3V3j2Y4jGMq3
    EGccZ3EBlXWl4b3g1W3E0aXZ3E2r1dXW7u8hZAY8HeZ8QjemZ20wcZ3n27ncdcgXWcZ8yb3EEw2y2x2y3n3V5,NMyNNXXW
    3V6c1u3F1xk3EMYXX359j3pXX3Y2x1dXW3iPHf18AqceZgc28gFGc3Ui1BKxXcmZZZZZZ4xnnnn7o9fc9e8pggg5iW1XXW
    cZ1,.wp8aXWcZ7dXX3CPyXe3ERpXe7BoXdHHoeXW2LTwXumXu3TSpXlcXboXlcXbMJwXfW1XXvN5X1XXWdgW1.15Ji5q5n
    c4Y1s2qk2.18i2kk7i2YXW9s7s2w1u6w2R,cdc2ay1Qq1Pve1mZ3Y1e1AWCeFm4q8k1s1JwSw2s1c4wTyXWcAi1m1e1k3q
    MwowXXu7g8wyo1JsW1XA3vZd2Yeq1c6U.6RZqgdc.2WZeeXWkdXWl18Wb2kkXWb2u6W1YXXFeeXW1m2e1WZb1q2k4mZe2I
    W3ycZe12mBy1e1k3iOi8m8g1iXWA.14i2.1ie1Ea5o1Yy1i2wGu1o2Y1Vo4c1m5cqm3g2i23mSWwiw1cc5aEWINbdZZg2e
    1ccZ9mxfXYwXWti16mZ4iXW2c4yXWb1c9kZ6kXW1ak23z26uZ1oZ1WZ4y3gt1WlchZ1gfdrhgoZZto.1EYZ13wW1X1oe4e
    cUW2.BqQwZZ1wXW7Yq8i1mZA.14i4qXWbZ1Lg4aKobbXWc23k6s4gZ2oqZb37aDiiLes3cmqXWmXY5oFc3a1a3WEym1aKm
    8gBk5mMAxXW3eXW1k3YucZ5ss1Y,uneXWb1xgitesgs13.bZc2Yq1w2e6mjXWfo8y6i1qZ5YXW9okdbk,slyfhhunw1C.b
    Z5kdniZejVYXW1yXW4wvujfqZTkXW3WXWdg7a1w6eMi2o7YbW1X9uwB.d13obXWe5end1D.BeZgXWGiXW1k3gpdg1Uw4e1
    m9u4mjckXW1XiwjzXW22cVWb22a27uNs8i13.5g3e4gcqk2a4wscXWLmmqq1Y1Wg5Wgw1UyTiw1mHw6Ac13U,7kAicn1Ym
    2r2mj2h2YXW1fdbu1a1ns1ylg3Z2W1n2eg1h1cVcZc2o4aXW6.ZiXWb8ebXWc7m5YcAo1Y,2Y1n2o2l2Wd1X1ij2l.2a1Z
    cdrmXW1j1wg,jvy1B.kvm6Wm1ZyW1Xjm1X1cZ1fRg5W6Wt1krirdp1m1Zp1uRoZbXW3aZg9y1gXWbZ5cXWenMW2a8ene6y
    y1u4ib1ic6Wvur2gjyz12oZ7e1eZ1jr1e1v1yzchj2W2d2q2r2mbbt1BecdBqGe6u1ZXYujo1hd1sxg20.6s7e1w3u1nmX
    Wf1k3Z1Y1k2X1w2f2.f1hk1Zwr1c1X1mmg1j1VgkXWhUsZZ6gbDgPkZwXWKs6yFgT.ZZBm18i15sKadsheZ1oRy2eW1Xlc
    3F.4m2.13m1W1W4oCmw4eFo2WDa1i1cgZZOUdPBY1aofdAk7yk26kfelc140j3Y1y1o1YeyXWCe2.1X1rw1d3W1Xhd1di1
    e1,1c1u1n1ac1lTsbe1g.Zc4i4Y3.dZerbou7yd9mcZb1i1aXX5ybe9wc2a1z1y1hhfy.vr1g1,i1k.3nk2ez1a16w8qvx
    Znib1oQY2ybXWf1Y6sd1q1tt2etsdbop1tg2WxPsiZ3gebgdc8W2.dW1XXW7a1j1m,ckcMicfZkr6m2cdilXW6Y3YXWc5m
    XWbd6ae1yns1Yi1uk1,1g1hwkcc1XVuZ2sZc4W4senhep1qq3X2oXWpd2X1iZ1gq1bk1n2i2p2mbXW1Z1r2c17Y6q1i3.1
    sZljfwz1WktdGkb6c1.s2f2u2pg1Y1kj2nXW1Wst1c1t2il1l1bo1Ra4eXW1o9goCoiu4b1u1q3bsXWb2k3l2sb1twto1d
    2q1b2w3bf2kj1Z1z4e1djsW1X1Rilgn1WPeXWu1Y2Wc5m.ublDqZpwjPo6YfXWEs3.3YcFa1oKacXW8oZBcZ8a10g15k3o
    Z7sBi1hd1W1XsburiJk1q1WAk1jf1g1Y1z1snhlsq1hy.l1Pm2eQ5fR4u36eGekdEgeliHas1Qkq9w2gZfqb7m3W6sw14B
    ,.XWJe2vj1Y2a,b.1rx2cm1hy2p2cvb1ov1Y2lQY3uZ1WA.tmeZZf8Ycjb4w4s2g2W4aDa1g1n2kh1Z1by1ghh1d1mW1Xe
    g1pfks1bb1o14Y8eq1ieZ2w2X1tScfbZc8wf2m1vi1u1zi1Xw1ujM.3sebbe5w4yXWbb8.lIi2koj5.2ek5g.2i3o2ediX
    Wfid8quei1l1s2i2enj1vd2qZZjTy9u3sxx,1g1d1Ws1jknd1cr1y,13yk6k1c2i4eoxmo1XqqxDeGo2v1.1xf1w3jl4kv
    k2ty1x2ku2x1m1W1i4d2qqht1Po1qe3W1yi4oAs4c2mn1m1v1p2i1dlW1X2gcXWn1t2j4g1b1a,im2l1y1OY1WlleburrO
    w4cdi7ipXWDk1e,p1uxxMm1e2cdcd6YlXWdXWDi.XX4Ybdc3wnZ1acxbuDi2k1cnXWJqeZZ7cXW1mXWlBgc7.bOY8iehqb
    dc13c5k3a4iwdg2iAY1Wt1lXWo1ijx1YklHm2.Ci1wc2bnu1.1,1ym3li1s1Y2hndytw1Y1m1Ks2qcZTe1.Hk5e3gjXW19
    ucDgZ4aHqZIgrfohW1XoblgEcgxc8oZ8e1RiC.hXXHim6c2ck.Am3egBme15KZ5uLqXW1k3f3mZ2x3a1d1X3k1xhnZ1lk1
    g1g3l3Y1j.Z2hh4Wd2v2y2bNe2oXWd2uZji8uknmcCy5i2Yb4cGq2o,3k3t1ly1gv1s2tgv2o1tff4a2Xr1cVgXWB.1cpn
    4kGk4oXWcBmmgefn2l3gekf1pdMcEyAneebjmgZ4w4ygh9y1Yb1ZbokuxFs4Wb8Ycj8s6aZZCqW1Xsc1hi1ofk1i1uhxmn
    l1aRaAw1ip5W1X,2k1dgqj,1k1d1dXWd2iZVwXW5Y2og7ymkv1WjlfBm1wXWcGs1m1Yby1rq1c2t8s9v3ii1f4p5w1Xfm1
    p1u3bi2q1KqZ2.6wgXWbbCw7s2uxZ2Z1cZ1z3s2l1y1t1f1st2eb1Zw2X3W1Jk.wt1ZmMs4Y8edghZ9W6m1w1tzsvNkqZb
    Z6imc1hXWsZdqrDe2i1seXW5urXWoCa4mp1a1t1meW1X1boxZ1eIeh1YZpoZje8sZgnme1ZAwg5a2yuNo9orvZ1kczfiic
    ,wc12W2i3i3af4i1cdgb2kcBc1a1b1i1nm1czh1ityzxF.Z1g1Y1sXWdg9W7Y2mcr1b1ol1fZ1u1xmd1,2q,p1u1Ha3k2Y
    1l1ai1x1mlTgmsXWhfQWnbbqtyfelc13m3cZ2oXWDiJi2kchEc5Yi,qjj1Wjox9y4wfi7YhZ8wijid1QsEWXWbW1Xjcmvk
    5y12mCsFw3Y4yys16BzVwe2Z1hfq.1Z1w1a2nm2YZe2n4X6YbFW3q5u7si6emZd3uZs2kXWb8i9Jq8Rj2gf2b1se1zm1p2
    ilk2j3i2vr2.3X3m3X.1kRaebDk2kif2jg1ko3e3zcIm4cDguo1yg2rf2kn1fgIk5mbZbdm4eZZ5qfXWAsZoyhw1Z1o1hi
    ue1XCu5kbdg8YXWbZq7mc2Y1idc2wcijqZfEe2g1r1mo2e1l3c2pW1Xorj2m2X1wd,1q2l2c1dLeXW2yLom3h2gwe2z1X3
    a1c3p3o2Xj1o3X3y2fg1aou1rd,h1bZ1cUelhob7Vn7VYqdZ4oZ1a2efXWc9Wdsgbn9uA2bA4gMk2.x,2c3jp3ur1X1q2x
    4a1l2lZ1Wqupc1,1BY8o3aXW4WMe2.3m1r2l3W1h1o1mZu3zg1v2c2d3Y1u4Z4Wb3Xy4o6h2i1a1d1cmdj2bb1r4c2x2m1
    He1YXWxzK.4Yg9uZhdk6.7.ilen1WDe1kW1XXW2ik4eXWf.2W4iXW2X1ieCa4kbq5wmbjccJa2nuHmei8.9me8uox1ajxi
    1YMgibBad2.4dueg1Xe1a1h1e1XZ10w6af3ccg4s2.fEq1pyobmvD.3ecZeLi1Yj2X2sv2m1b1pnqr1m2pgXWs2a1A.JEt
    JLylr.,1ai1rb1sOs4u1j2e1pgpbGof9uxkcwfzfm12m1a5WeZdcdCYZ5ofIagJsvydwfbxiqc1Z1evilW1XDgi1Y5s7m2
    m,dgkf1QYEaubingcXWt5g2sZE0pZEIeXW1LmOuPYs2k1k171p1hn1gn1Z1kccB6kAG,8acXWv7iZb8W4uTki2m2t.1eh1
    j1s.1jxgn3Yh,6Z7g1n2a,i3du2c1bNgIchs1XwXW1XfeDqXW6kHm2e1t1eqwCwb6ajmd3sXW2kHug1v1eBk4onee3u4wp
    XWc7o3a3wXWbIq1Y2,g2s3wm2p1u2hul7g7l1y1n1ep1cGy2sLs1l4e,2q2XdmW1Xi1a1d1at1mXW7n7.r,7m7n2WMiofX
    W2.Z2WCWcgcl2c1lgl8mXW2YbTy2hunZ2.2j1kll1c2l2Y,1nc4Yif4h1a9g7d14efe5ub2k3e4WXWd10eq1w3d1a3i1x2
    ribn4Yd3f3c1o4Zl4q3t1q1dz1m2j2a8y4b7X3i1i1,2.pr1BsXWws,1i3o5bJY3ofBk1Z1WtHa1Xq1Ze1YXWbh1fucFyX
    W4iZ7olorZkc9uXW1sd2a2o7e9.7Y1WeP.hejh9oW1XZZ5Wb6ky1XscclbgcK.kBqz1o1d2r4eg1Zif.eJU,L5YXW3k4m3
    eDYZpkd1hyn.m2a9.sSy1st1i2x1t4k4r2.ce6e4x1r1w4X3at2n6.2rr2n2u3du17w8gj1g1pmq1f.Nq6sXW1ZDc1eAi2
    itq2bi1emtr1bkf2Y10u2a2yypsgjiveZqlDchf4y1W1b1Wph1W1hJidgAY9cmfmjgCwx1gt6ic6s4iXW.1r1i1Zeps1Oe
    hfkW1XcZfFwgdzoXWm1t1c3ygZcXW2oeDs3qXWcEWeijqhCaZ2Hksg184,12uodXW1cl1bugv1oRonk6cmbbXW4w1BYq1h
    1e1n.1hs1cXWu1hm1vXW2W1vKqXWKuxmZej1m1,2a2d1o1XlHwLsoezZZp1W1X1BmkDy2y5YZ4s4m5ecMwt3q2p2v2o2bo
    m4kbnq,rx1rl3aEsXWVa2u2Xwe1Y1Z1xynl2q2XXW1ZMk3e1aEmzbXW.1b1gt7k19a2lW1X1d1y1lv2a4h5c3n1.ext2ky
    2pknUw2u4.Z1g2s1Aiy2g1xw3by2sb2Xx2gb,2k3tk2o1Y2rdy19su1Yh1t1.t1Yj1r1ql1n2c1bEg1oEi.jZJa1hhsZ1x
    b1scXWHsc8o1X1a,ZqitZEuXW7w1Yhni1k,c1Xqej8wAY2c1pXWvdx1ic1fFuic5Au56,6WbkvuZ8aXWDm4q6X.lKsccD.
    1r1o1X.3f11ehXWo3mZfBcc2.bEyZo1dqinW1X.XW1fAW4c13ut3rv4g,i2b2e1Z1,l2wckg2l11obe9s1stZlbdmXWegL
    W8ktiefig1ludCs4m8omXWxem1mt1p3y2,1g1ntwbyc3x2sVs2oZ4adXWf1b1aZeHwbqmgm1XjcCw5aktw9i1e9qZq1Z1c
    1n1qhpoZZg1deDai5ibZ6Y6.2Y1,ieb1y1X1q1d1x1ignvk1u1J.GYfXW3obbXW2ygbd6Y1.c9sXWcpojFYnW1XqXWBibe
    Iy10oPq8wiy173pmp,1m1dhjc2Y2d1u7q9a9YZBW7w15ac1uf1r1mzegXW1l2Wq1lo1rIcbMWqi1Yp1Zwn8Y2odc4kZNoi
    e1bZcu9c6qqjgXWcjch2.5iIceDgozcd8We3g3w2s4qO.nw2w1hXWfhb1yBi15y2,f5Y2v1p1u2p1k3d3q.Fm3W3kZCwkt
    1GWw1d2w1d2in3X1wg1Xq1wd2X2W2j1y2XQkeEm1GY1,1j1i1,3i1i1zw1xx2YW1X2d1X1m2umj,z1kg5q5z3z1i,2j2u1
    9yi1vyj.Aw5ggA.wHgZmkd9m8y9k1rbbsC.cAalc1zMY2bowrjEuXWbAae7qZ4gcBcvr1j2ckph2q3ZdJigXWFyt1f2aXW
    1z2s1jbZq1n1yret2it1tSg7YXWb8Wf2yCq3Y1Wlcte6i1eyys2y17.rmb2ti1g1j3W1do1e4d2w1il17i2d2W1pe1W1v3
    y1zzSs1WziZi1h3c2tRm1r1ci1j1gz1aW1Xkhe1XlqySe2eZ4mbXW9q2.f6mHobeb9YByngmrighbB.Zk5meZdGgoi1eb1
    t1oqw2v1i1HYmXWjcZFieZ3ak2.7wq7a2aXW9mc5ccmdBoE.XW3k5uXWRccdSq8W1W174jfhjgqkXWfDmAuXXgd6kCc17w
    yblytt2shq1y3zlXW15Y2WZ1i1l1chdCmPwz1Y1j1mfEkbdc7qXWJopC.dc8anibkd6o2q4kbSa,m1Zn2yW1Xjvh1e2q1l
    1u1x1.1bs1X1s8Y13uks2i1g2ro2Yt1bc1g1l1wZb1Z1c1dq1aCccXWJkdqd1Ncf3l1q1yh1v2gzp1l1We1n2gKWb5k2aX
    W1Nq3yo3d1i1b3c1p1b1yr2Y1frv3e3,8d9s,Z14YyipA.4iBeqHc2cnhcGWAaqrichXW7o2Y2sAsliijKYjt1Yv1m1p1g
    NWdgdjg7gZGWg1e1X1cXWj2Z2wF.Hk1ghw2d1g,uhpgu4t3u1qmNwc3oW1X3s3yNiXXejb1OW2k2d2v3.XW1rb1cbx2n3q
    2jm17wzc1jk1c1X,btmGocBepuXWctRc1ktd2,3k2y4j1mld,2kp1le2cNac1.7gboboXWtXWl.p8w3cg8o1tyi1d1srcd
    9w6ebgsdgzcmKgijisBqdjs5kccnKcrf3e3z3o2dzq1kt2q3z1FugLecXWc5m2ybg9cs,9m5mqZkCix1WfrgdmD.3mXW3o
    1.Z3enPmeW1XjQk1i1Y132j13As174Xkffi6u2s3eBgc6Y1Mk1c.1Xh1gzbdwbdr1g14udqbAqRW1m4g7o1.1Jw16o2Z1o
    1,4e1lowb6o19ifs1XXW1.1jehuz1ec1jBkLce1Xue,1Oihc2W1c1d1,u1.Z1jf1b2s1lHa1.8.1Ry1Z1X2c1,1y1rwyld
    1Xj1g10sumcry1v1iue1pXWQgJgmtmZ4g2sXWImgcAybBubXWkKez1chCWAmXWnkZ7WIW3o4n1upkodFWXWJgW1Xmp1eoh
    Z1fmMq3q3.XWd3sOurZ5ey5YXW1Fa1W1Z2YXW2jk2gdv12i1wZg1hDgCqoxkr8qfKY1g,k1W2fum1YeXWtrkekNWc2k6aL
    Y1de.pfGkvqh7ibDWZgjsbBs5.O.1k3z3ufx2j3W2l1kr1khv1q1h1AcEwXWc2u3qeipkf4wXWs3c9ooefrw1hEw1ordkl
    Det1WCmg4Wz3u6qOg.ec1jqRyfBq1W177btc1aSe1Pqz1YtcW1Xo14kbbd16cjj5kBy3aLgbehBeEa7a10wli2W1t6mc19
    sf.o1Yrki,u9iXWLkd1Qs1g1X1.j4W3n2h1ql1YBw5c2w2.1TY1q1bXWhqmg6,6wto1f1qcVmn1WnZoZo1f5i1aIscJmmr
    cP.fs9.Cqpkfhk4cGoejh1cAkeAy6oKok,l1i2vGYfcgdjgLa1Yo,h1a1n1cv1gfxi1W1ds1XHiBWq7iXWbZgLedpobZbw
    t2s2a6o1JqW1X2jj1.te1u1f1f2a1zDyLq1a1z2Wv1t1YZ.eNYh.vi7WMcqcc1Z1kd1pwJab3g8meZfeAyAacdcFsjgejK
    YbmdXWbBq6shbRa3i5r4y2t1u1r3d6k1b1Z1i1jj17kXXfbEum1.4kc8c3e7e7Y8WCwbRWdZeO.gKw4g1WbXWb6ey15Mp1
    Be1q12uZ16Y22i18k5Y1CabwovXWfCYIi4s1Oyl1mnds1fXWBY1q3m25scxov1mbUwXWcjOWbJc1o5kKacW1XjMucfXWLc
    AYBeXWb6gXWMkfevibCkMyXWqfm,mFWBac7wZLmc3u1Si2j2gel1psZ1d14qdk1bQk2w4cJg1axZIiBiLgsebhr6u8qgJs
    fiIeXW2gSgrww1ahbg1ncd13ycjiGyjdce4k8Wem4w5gcdci6m8gXWb,7m6qBe4ce4qZZ7yZ3g3hnPaweOY3i1m16Vp2Nc
    13qXWe1He11Pu10Af1GkiZZ1Gu1WTad20ondl2KogqzeneU.m4u4sDkW1XcKey1qAgZDqcMkLc9oBsbTiXWlijq12ucw1X
    XWHuHbKeeZ12Y21avy1h1WXW1c10gso1fiMcZpoUe1uf,1avXWp1eRWcNcr1i1Zr.jEYj6WDyXWIkd13e1X.1vi1gXWlw1
    huwx1aVgDo3W4md3s7u2W6eje6a8qgCyeFgDuZ1ZiQ.2n1ancIkif2a15Rv1RY1WZbo12o15we3s7qTe23Wc1H.fiSy4a1
    Si2LczcT.MuLgPee1CagcZPw3WLkpsAcXW9B.8JZZW1XkCsBgTs8w1Pib1o1lwife10sXWLW5k3.Nofjq1XwQgbNwngd1J
    c1m14y1hjUgLWPg8.Z5m8eimbT.j16w3w3e4m3Ygb172rXW2OqZc15c1LoMa23Wc1IWZ7qLg21cqrBo29sTW8w13WbPiMs
    27y14WdJY35u1k1d10qZZbKuc5aRmekPkNmebDg5Y10u17gicibjlRmLkXWlCy6obFcE.bdb9a8idDwnOsi.rEi5c2s4es
    XW172tZ2OycZ2Bk15ibNw1Ba1Ii2Uk5m2FYm1IoMgAkEgbW1X1Km1AyZ22WZMc3Ped8yOgPkXWNscC.Um1FwyXW1EuXW8i
    bAsEsGYn8i4oJW1nydPogLy3ob2s14Cn3Gs22s1IeoZSc22g4Ss2VYPsZc12.eb1K.25kmVc1Lq2GkZ1Tgdg1GgGmEyF.X
    Wf7wXWdOeeZPWBs5i142d11o64e5Jc31eXWMi3Nq3o4A.e2q1JaZg4H,5Ag2Ai1As1Dokf8cAsVWCe3kGmPsXW8cXW8s7Y
    h107,62e2Ky60qc5SyOi2Ea1IY1Bab20aEyNo4y1QqN6n3Nk9SY4Dy1Lc19qeDSp6GY1G.1Hu1BoXWb3VuXW18W9Ad42u4
    PuLVbK4cCm1EseGQvW1X15Nf6ZXW9p3wX2n.X2aW1XXlMEbXW1f1iXbmXn1w1tXuG1aXeuXeW6WKSi1s1PqIi6o2Nti3u4
    k44s2HJi2EPz1Gi8Mf1No1Np2Y6i3WmZ1DYMg7Y4y1MmUe2q1EgVW3Uc2Tc1q4o32uI0zuAwvynfd1JcHY3Y1TkXWVg1o1
    5ce8.2q3qZPa7wcKm14Y4m4SiW1X2ayff37ecDs32.3DcAPg13HXs1g3l2W2d1Wp1a1i1te1y,,1X1.1AW6crm9k7wd2.3
    y7y1Dsb5Wfs10o4gfqreloTmCW1Y5mbXWeMa9k1W7.1o5s6aZh18yckdifpmju1OsZLYhZeZidp2Ei2.wsxhspXW22iUy5
    kXWDqPwLi1Vk2Dw1Imggdc1S.1Ja3HubXWel2O.cfe13Cx1t2m1ps1a2j2q1hy1z1m2tkw2c12.2s6ece8wXW5u5s1W1wX
    WAamx2s,2veqxW1X2i1cz1pf2e1Amlb5wgmdcmRg3s6kzopp1g1bZ1ojUyg9kc6eclebqnfycKu2sg7ybefi7o1o5ub5wZ
    Z1yhki1beZ1mtogiv14k4qqcXWix1jsZr1am1Zktc1CeBqgZZeLYc1cfpf1i1Xy,28i4qXW5.1Zg1qmg1zbj3a2x1s.m3j
    yz1k1e1UkkUq5wbkehluDYcfXWbQoZ5uXWEw1Bw3Fm6agpcsVgZrqecW1XplXW4Vg1LarEYcglql2PYnmb13VrMi1vqnem
    1Zb1ihx2t4u2x3Y2Zop1ownsv1X1e2re13Y1.c7mdXW1e1h8u4.XW3a5kcFenc1Y,k1x1Wg1pmoz2m1zzZ3o3hgd19ec7k
    ehbkZkstknXW1bk1iPW3q7Yi1iZ1v1sttkm1e2hweo1f1ePue2.cBWe6mrf1ijlgxgstodro1ajrNadiHWjXX3Y2.fZ6am
    4olx1q2lW1X2q2ry1w1pg.r1he1.1tbhd1eVo2q7Ym1y1d1fw1g1vifw1bmo18i6u1e4.xo.rxoocnn1gZEk1g7u1p2cg1
    vi1y1bb1X1qZ1b2izo1jjgpXW1u1Pa5ub6Y4W7k5qZe1h2d1.2l3s3X1qznqe2mi2Xu2p2r1e1x5.1z7Y6dj1l4q2r1s1n
    1Seg1d.xbyi1f1o1lUm6wty,1erckziDedwlfbw,KYu5mXWb4.wHm4gbZiGegdcZW1XdKud8kBee8YNs8o1Jo5s2Wt1idn
    Ne8Y2Y1h1Zbe1szm.1z1wjvlo1q1z2Wx1f1S.ZbXW2Uo1NwlojqZcDuchgd2OqgZbq137jn.2Z1mcr1eod1zn2o1f1W1vk
    l3e15oi7mc7u4W1uZeZIc1pwn2svN4sN5jp2o2X1WXW2j3X4w1r1w4v6w2z1Gi1lXWi1nukblgpswthMW1q4k8.d1Y1c,1
    f1yeZj1b.i1v.sc1h1.rlRuAg8govuv1YW1Xef1ZbewdXWhlbo1a1qGa2oXXdg8wvbloc6c2m2o3YBac1u1.1f1p.vc1c,
    vc1y3t2Y1g.oTgXW8w3.b1j1qt1n.1kd1fbs1eXW1r1u1rt15ac6m1i7m1h1ae1psf1an1W1x1mitEaXWBa3a2rz2c2Z3y
    2X1np.2klh2r1o1r4gZnt2Zp1i1qq3z4s3j2m2Z1z3ot2W3ZXWl2m1,1Ly5sc3c2Yco4YXWGmwlz1ye2xn3X5q2,1i2a2X
    p1Z1y2iW1X4Z1m2W3fw3a3p1qw2f1s1pm1Qm1n2WxZ,1eXWvPooXW2cgeh5w1sgevufdAc4mrkdvdZZ3m2vopiez1eIac4
    Y1qXW6WeDW4u4ghXXi1dgZEyXW1.uXWxuZZhj1YJmcZjZ9ancmnBcb5e3WXWNqbXWkXX8cil15m3qf3a4qmXWi2eAa1Z1q
    ,pj.t1.re1buvko1W1pJc2c7e4i2ih.1,1o2t6i4,1h1.nt1ae1m1ZhjjW1Xjf1slj1OsdopS.y1qeZMs3ae1Mu17abyzH
    a3fc1k1XlqgdGwZ28ahccpg133X1pcw1W.1h2jZ4Wgt3jXW2Yigm.jc2dKw3sZ3mjXWek9elnwXWry6u4a9YOo4f3ih2tw
    ,3k1tig1x2kv1f1q,fXW1n2.toVkXWCs6k5xd1nwpZfbqoq1loKy3wDWd1mXW1pjox1g1iJq3ukZ5m5eb9o1e1ZekqlJYZ
    8Ykfc8md3mFkdyW1X2j6a1rn1c1Z1w1r1ckf1X1izOu2yAw1.4k2r1oXW,yAaAt1cZz1d1ox2gfi2v1s1f2mp1p2W1lo10
    cf8YdXWb8o1i1nsCaXWGwh3W1lXWo1Yg3p1u1h1qrcc2Wr1X1ltc1cck2W1d1hh1Gwebge3qAHiAFr5.bghZi3.Li1lXW1
    c6p5g3a3rsuc2cf6c7Xm2nql3m2lw1x2e1k6p3q2excg6z6yncn1u1Kwpbw1b76.75lthwcvlnXX1ev1eMa3kW1XZZ8sjj
    sndokDckw,1r2ufkxrqlqddXW1YFkXW1iXW2w3sg5a1ajqfZpgDY4W5gbteZ1a1bggXWoiFwqr1ejlkdrospmIemvypZZ9
    sXWv.ZdzcZAqefkXWbd5a3ov1WzslcghqNcylcfin9qZvdsbdwxdd15Yidcdb3uf3aZb5k2ohCanmfwjiGa2.rG.j1m2t3
    o2v3a1lc1trkW1X2Yw3d1W2b3g1a3l.f1mnj1.bmm3h.2W2f2a1GuZ5Yk1bpgy1l1Y1Zi1W1h2Yvok1ber1WxgRWXW2qoX
    Wf.,.1X1ghroPk13i1Y2g2qZDec3ycZHucIupydfqnjEYslXWqfkxefio6wbXW8kyn28ce5y12mVw5Y16BXVajpdcxn1c1
    i2riv1s1Z1o4x3Y1sscnXW1zj2.i1vjOW9ucZc6od5s7WTqXW3r1ae1vr2m1a2vZh2cxW1X3p2k3e1l1h1W1t.iuSWdFg1
    q3b1g1r1ow1d1Yu1X1e1n2f3o1pt1Wxmt2y1b1g2p1su1tnm1ypLoGgnd1cp2jd3o1x1Wkm1p1ax1f1stz1m1d4k5X1W1f
    1e2gl2bsi1f1sHkf5eZ9qCi1d1cdk1f1w1t1qZ1j2a1z1af1WHYr7yeilXW8ec6ehqEukr3ozs1qXWh1itg1h1l2s2f1et
    gsx17c3e2inh4Y1,1W1Xj1g1x1,1oq2b4a3r2m2,4a3b2o6p6gW1X2lyf1Yf1xUe7s9ofjbekBkMa.qw2,XW4YdAuEl3gq
    d3fZ3.2d1n1u1j1Zm3o2r,y1yht1i1l1u2ve1khbx1BqdgXW5qbbXWb9.Pk1hqZCaCn3yl2t4W2b2w3n1oZp1n2mpXWb1q
    2rx3Ye3j1u1dyjm2c1,2s2jr1k2n1KW1e1j2Y2d1o1v1g1Z1y1femy1dnb1ipwNYdXWe9.j1Xsmzbp1Y1W6s6.cd1Wdfsl
    jceyZ1l1gLwZ6ugdW1XfXWiZCWj4s6krbgXWcZs1n1kjHespgdc2j2WuHgecXWlor5s4WbbXW9oifAi1c1d,uzc1W1t1cx
    1gjccek1zqNagby9cohbgu1pd1okpXWu,1d13u3cmXWb3WXWceXWroj5kZd2wfiDYyvc1czyzev1criFW2mhmjb4cHw1ei
    1t1dl3a3X1uz1gg2f2W1i2vkq1ab1W1,x2ms2l1W1q3Z2m1,2m3n2g1CWd6qnW1XuZgtr1o,ji1g1nmXWmjXWPg3mw1ejo
    1Xp1Ybl1Wzcfyo2XmhFg5gef5upiz11uc2aXW2Y2oDobb4ekpkcHmkZZhqXWKe1pku1X1iC.hkgbXW1,1mXWd6ycclc9mo
    dci1f1i,XWw,k1OwwcFg,bkb5YAu9sEaBc14FvjZs1d1o2Xqc1W3h3gr1XiDo7iJ.Z9eeUs1mdo3jC.Ad,tm2k3f2c1Z1c
    2l1W1s2l1kw1dN.Hy.W1X1ziqfi3d5e2dpZ1owpnuZtZ1WIkK.1tu2h2of2j2.2r2qm1l1q7l4yky1fo1.2zc1W1YxgsKy
    1xbqdlg3.2gGmw2o2rsvr1wdm2bm1o1hv2o1lp1Y1ZgrgsiGWdHm4.ZkH.1X1e1k1fr5Y2b1ow1Z1X1.1tgc3x4c1iix1Z
    imKWKs1yZ1.1mem2vDsAr2p1k1k2Z1ye6w8b2Z2WZ1n1gh1ZiiZd2o1pcLq3iejnwd2m1aXW1Y2ccW1XAs1X1Wi,o,o9W1
    0u3p3a2n4.3zbm1.3p2avl1c1yd1x1b2k3t3w6oBv5y2b2p4.1v2n2yZ1f2eZy4pj1iXWo.2d3i3b1i2w1Y5z17ccgd5oe
    cf2o3ecXW3ySw4sXW2n2s4W4vXWo1y3l1gc1w1k5l1m1ot1a1j3n2u3Ysvi3Xp3o1aj3b1l.2e1c3z5a1f1e2b2g2l1g3Z
    XW2g1Ckb1a3f3eezcd1Y1dq1c1,JY1W2.XWdZk8ml2iz1Wcvuhld1c2pIcbgh1hW1XgmwgxZjwp1cCq3g4Yd7uxmipcixB
    .d4o6wXWdqnigdXW9c.7ggXWp1aglgclZrgHcZZb9colqn9i4yb6k,qggcz1o1dLyfslBm1mv1Xe1ae1t1.1Z1W1pc1i1n
    .1ZVYXW2kXW3wbXW3k7sbXWA.2r7Wmodnr1Y1dAwoqXXu3oXWc3kCk9g2s2s6d2o2s2td1oj1s4rc2en2f4c2fox2m1z1j
    eo2W2v4Yk3Z3et4f3aW1X1z2i3ds1q2q5X2qc2r3m2fu3q4X2e1Dssg1d1Yp1Yx.,1Yd1b1a1lNm.Z6i1y1zZobnkhkt5W
    3nCweZ4kdXW7eZ1f2Y1p1mXW1fXWyrqlce11Y2cZ3sgzqfDWfq5Whjj1Wkxkg1Z1W1bIsoeZ1dop1YzXW.tkhotKgmhDm2
    k2nhdw,ckZmbb5.ehebAaq1u2b1mw1ldv1c1dbqb2e2h1sotb1b1a1Mi1cZgFmpsW1XXWjd4ckh2.Z7wgb9qAc4c1Vu11e
    187jXW3c10mcm1n1kk1j1gj1b1alp1sb1dcIWAebeXW1Km1o,ghZ1e1x1g1X2i2r1e4h4ckyvz2s2hw1lLcKW1if1hbf2k
    1rl1Wfwr1z2k.8uSudm1Zblgh1Wqxu,qs1jc1m1f2pKkcXW4k1gJ.z1p1uyjzsZh8.6WZfeb7smjif7q7WbKs5cXW1,1s,
    ff1o1l2Y2j1mEYNKoNKhcZQa2wj2icp1mgW1X1W1Y2fre2ab1hXW1l1ssn1qvj2h1Y2k1tc1v2f3g1ex1dMa2e4aBekqhh
    Z1Wh1vAo14kl2l1k1g1W3bk2i3Zq1ic2a3bXW1f3m3ps2o7h8o4f3i2p3W2t3c1z1l3e2n1Z1Y1f2ixc1,2Y2d4w3,10sZ
    bZkl5s277c271bXWdbXW1Ae3uz3p3a2ZvXWw1aoyw1hg2d2u1bl1y2l2q1xwi1qf3,lfZ1md1.v1yj3d1mt1Agyb1ad1,1
    wi1Ykzp1,1k1ho2i1Z,eW1X,qyFi3.ZiZbA.klZksZFukXWmZk1l1WXWbvgmm8y1.ZZ2Y5wb5Vf66w2YvvmbdZ1o1hhpoo
    9w1w2o7osXWzgg1Wb1di1g7eAm1ejht1a1XXW1u1zr2Y1p1k1tGakhf9omXWliby,ot9eZf4y7ubqmtqx.bZ,1mb1dLWch
    Dqbjyzkt1g1dol1Yo1Xl1iTubfXWg3sZc3gXW4iKef1m1tyzm1YD5ZD3y1o,oW1X2t1yBw2whfce1AwBb1m2Ye1kb2n1f1
    Z4k1,3l1y3Y2dZ1uZ1jAsAp2lej4k3l3i4j1e1v5X7c1v1e1h3c1a3l1ibk1y5k3l5dw1Zd3i1k3r1p3iv1s1z1Bulx1i1
    b2f2W5o5h1khnt1mnTatcXW1YdZzgBi1k4gkZdZcjs9Y1Yl1z2b3ouc,.bxkSc1WZ1uZc2YbXW4m9wXW2ohcXWbkXWfc5.
    1Xwid1z1qjZiulqHclcZicXWjqKm1dW1XiivDedccibpe6YXWDqs2bs2w3d3cl2i5h1wf2mZ1x1amo3p2u1W3,2e1W1d2c
    2fils2f1MydcdFmXWbk3m2wehd7.gXWj9ybXW9.4seBkebiFobBYPWejPq7y171l1be1au1n1Wxm1Z1qgZvdFoAoXW6oc4
    i7w17u1bpk1j1ey1t1c1Zn2e1phj19Yx1go1bhbt1m1Zysd1nwkx1qh7W6yNa1cp1X1i1X1ebo1Zbh1azZf1Wp9o6qW1Xe
    8YIWbdqvmr1eZZrb1a1fkDqXWj8ilkp.lglc7YZ2w4mNkf1q1y1ec2ZXW2Wj1gv2X2k1,s2r3WptDebg10Y2c.c1mcfXWs
    n,4Y5n3g2fb1Zoy1X3W4X2yZ1bw1cFw2yGaZZ6kZ1.19Wi1e2p2.3n1sf1Y2tot1q1r1w1i,1Yil1p3Y1t1a3X3i1v2X1m
    pd3u4bl3cx1X2aOgeb5eXX2eXW3s1DY2mf1c2c2x4W3v3e2h4i3hXWy,2e2p2h1yW1X2w3y7rt4W1e1Xwl4r1wm3i3znl4
    e1x2X3.1t1b1a1j1q16kqlpidy1fuh1kAy1W4gbbBYsghHk1abgdtm9ccXW7s1e8kzgqflsAgCqhqd1f1c1Z1WiJWnslh2
    r2yxmhwrcFgzXWuZZZg,sb9u2W1rZlb8ceXW4c9s1g1bmZkpZ1Wxp1eKHfKHiu2bJqgdbEy1Yu1,m1mZi2n3arciXW1xs2
    d2k1xmohn2oQs7WXWclW1X4k3qZIyddgkZZ8s18cydb1u1gv1jcd.hyw2d1X1m2W3ds1g1pz3ei3Z.kl2.3z1.1q2,3mdb
    q2t1,TYDc1Xi4e2t1b1Xenc2o1l1ido2j1cne1W2r2opgy1vXW1a1fr1k1,Uk1XsXWog1X.jitfZBcgbZ4ucdCe1bzmdmQ
    m2uXW6wjoCW7eld.1XylgZZlcgGwXWdZ11klgcdbdsdj6WnmjJcZ2z2i2Z2kv1k1xW1X1qv1a3b1.1n2g4u6Xv1ey2hu1q
    1lfky.2pq2cv1b5z27ae5.5q2idgidclqdb5WZ4q9mXW5gbm9kZ2mrcZohsEs3cg5mXW2aXWbPcXWeRc16Qng2y3n.XW1Z
    oyXW,yOaXW6ib1Lqjs1lwqZd1cc1rxs1Z1cjz1YEYPaz1g1Zewdlf5.10YtqjZytspokbsLoJcbox1Y,cufilgCuvefFPm
    FHnee6o6qTqnr3oZz1pW1X1cn1wbzx1op1f2l4y7s14ac2ks1t1cixfZc1mf3l4q1pD.gZc3mXWGchlqixi1Lak1a3b1e1
    y2fx3w2Z1dr3qc1,2q3hf2k1x1X5q3n2b1i1c1Z1Z1.h1gy1j1p3Y1,1d2cJu5gbZg5uZZe1KW1t5oq4W3fhfe2r1d3k2t
    3w2Xr1k2x1y2Xbm3yZ3j5x6as1c1j2q3x3o2b1k1k3b1gx1a13md1f1i1Xj1Ww1nolkdqzuwEicB.jwXXdbklZW1XqIicX
    Wfhfoevd9WZ7mAmlhgZmp.x8aXXdFccjZKi1b1gdidkvhXWiDamZfkl72h7Ce7qcZGg1gx1b2c1,s1a1hHYegZIw1v1Wd1
    Xs2cp1f1YhZb,Pm3kgd4YbZcjc7weJwfZpypb8W3qgZbbe1De1m2v,2q1thg1c1h1yt2Z3Y3Z.g1n3k3n2e1zvoq1k2nZ2
    y1n2st1a2vh2a2n3ut3,XWoZs2Wo1Y2h.1kJeW1XFgyXW1e6s6z1tfmp1Wlpy1Wd1rb1ab1cd.v1bq1j2wj1dicFaAumop
    wXX1d1Yhdh9qcZ4sefEepz1ubeXW1r1w1pci1e1hpe1wMi1W4c5kjj1WzesBqfij8iecZs1pkhhoyXW1dbkhqheHcnvcke
    xXWLwdZngCgfbXWovo5mXWgpXWcfLYxXWf1q2d1q2c1bl1a1bk1Z2e2x2k1zbk1o1pov1mbq1jcW1X1z2w1t1b1Co3YZec
    Fgb3a3cej5o3Ygj4oZ5WZqeZnhw8u5kz1mecXWbCm,cgXWjhycxwtEm3qZoZZ5id2gydt1YZhnfoPYbecn1YllcydZOW5Y
    3wXW16VfpgepCyLkAy19W1X.ixdsi1f1qAiZQytwrhojs15acckxZdk1czkbDaRyinb.hbfbshciBeXWbq7sbZcd6k7aUa
    u1b3W1Z1chu1bW1Xil2v1KuZjZjv3f3s1o1o1r5s4wd2kIkrcsXWg1bbZ1c5m1Ha3c1x1.3h3k2r2W1Yq1tr2p3c1,gc2q
    j1fZi1ujp2f2cnZnXWnHWZc5aeXW1yZ3yZe1Qm1.2n2gt1cj6r6kl1,2w2b5w5,qwzb2i1Xl1j2m1z2c1zeb11iddl1.1j
    XWsqrdo1b1u1vs1gXWCcXWCudXWilkZHi1ukvbew6s7iBWbgwrqldb8u2uBgeghZmXWzgW1XbKkwfivinkXWuzXWCgAYgZ
    7WcdfkImigrn1Yt.1a2h1knj1W1dmFecelXWKa1Wrt1eXWxh.lio1lgmpm1aZIW3oXWb3m3.3uZ4eKitoufrifobi1X4u6
    eXX1GW1Z2k1zk.p1nk1.2d2a1zyr1w2h1y1k2d2Ym2X1cl2w2jpp1amFmcZJmvofZrl1ic1,.1w1zuXWw1p1Yob1ZPiosd
    XWls,mjwdxDcFWW1Xc1YcXW1n3m3Xh1a2n1kem1m1XwPkXWb6ileZe7qc3mc8wujoi,kXWg1Z1W7.7qnmdmbdKcecu7g3q
    cXW5ydXWfcPop1j1m1pq6u4bg2Zo1Z1Z4i1p1,Z4b5c2d2u1b1rb3y3b2c2h2s1Yft1jnZxuph1u1Ak1a,hXWfqroEw2u3
    mmb8qbd5wo3yjeFchoc7i5YblZwxmZbDcktm3ugZb3w4yictcdm1aZb1j1uW1X1nuPyzqbr1ivhs1bqkMqbXW2mZ2oXW2g
    1o2u171lZdcfqSu1QWlXWlbZhgdc15ibhe15uny,qhZqZ4y7kXWSiBibLgd10ozm2uliZgr1Hajjolg9qZ3k2gFo1Ruq1h
    2g1v1kfkd1lwhm1b2if1d1b2mv1hmkCq5c5w1Se2d4u2X1Wl1ajZn1g1hikVq1YpszwzPahXWIo1ul1t1segvs6aXXd7iC
    WiXWb5y4iCwrmiZW1Xbdp4oGesilXWr1evikAmdBgZhcfk6gcXWKgs1x.Zf1e1r1m1n1Wmjbpiq1jXW2WjD.Ki1Wk,D1iD
    1Xz2Wpm1z2e1vuh.rGu3sZZ7mb3sPWqobhct2y7cZc1Imd1W1o1bu1h1o2n2qrg2liy1o2lb2Z3mo1Xmwg1v2a2Xkdvd2c
    n1WCqLk1fe1o1hfyfmz1ujZs1hn1ik1jcqli2a2vOebqce1a1tu6ucZ4gXWIuW1Xjbhvk1m1deezkhb1kpmJi2acZb2kZ6
    i7kEWZkdfhFwdKilBs6colbkcfe10a1z2w4tz,3i2fg1s2xmXW1Wy2c4d1.1W2bbdd2ckg1rdig1q3bu16.lqjczFmcf7g
    Zlif8amhcZ3oZ1y5YekZfbEckXWbqZdbgZ6oub6anjecZbicXWbmBu4YZgh4w5c.rduhgZ1z1wb1WOg.2k3ZnXWcmnW1X1
    idXWhlqdEKnEJoLyZg2e1o1c2ag2iZZ3c4w176,fXW2Msgheef1DmSwIyXWLkAyXW1Msm.XWelkh1h1e1Hkilhqcl9o4mG
    WXWd1Uyvg2g1tvfXW1Y1dlBa6u4c1VwiXWvg1Wj,XWh2u2rh1eVmbjsjNqKcotwdnim5cZKqotpege4w1m3WDknKiymXWt
    mcZ9wZBeRyy1XmZ.1Xqcjeu12wvkytsdz1WpfMcb4gXW7yLwXWW1Xb9WZ1Lk1cjeZ,cosdhwejd1fi1w5c6vZmAuN.Zfl1
    YZhj1g,1Xop1s1hu3,3ec2oxvtNkngdjsXWnUadf1Ydi1c1nycxv1c1Z1Ynr1mcdGo3e2gZZ6mkbbLwkbpZomcvZmfw1hF
    cXXeTy1cXWe6sdcoh10u2pk2i1vc1f1.1p1wvo1Zx1ak1b2g2X2azgw1Zc12yXWbEc2geSHnSHyli4kZe8mcjelkW1Xne3
    ccdc2c5kXX6k8qhbDifbgpylhcZBs1w2wfXW2gw1icZ7wZdfcve1u1x.tgQWpfh1a1X.druhculcJgb5e2cZ1k1WkZZZ2g
    q172ZXWMa6aBy1FmclXWec12.eb3m12uXX18gAyLW13w1Gwqdfec7k5sZGa20ql1fioz1gdv1u1vb1a8c5Y5w20y.lr1ir
    XXk1byn.UcbdheAYXWbZb12sjzw5eKsMqXWj2yIwbW1Xkhhm9cBmXWSuqdx1WBabOwZenmnuncvEeZ3qe3a4kXW7sMWb9W
    dc1Ookf1fomzd1ikk2Xmglt2Wrq1Zg11.jqxXW1ceZhrwpunMYnXWfshfif3W3WZ4YLsncr1eebpsf,1YiEw3gZ2g6wXWc
    AebebCcuhpiw4m9YZbXWe6aOwZ7ad13a1lox1or2qx2Xy3X3y1vs1stz1Zsz1c1iPk5yXWGk4ocXWfbW1X8ygZ2mXX7ydg
    j6obbe8sZf6eXW7eh1YnmpmbmfhbnA.4qZgb2uBeXWtbkcf.1ve1i1Xdw1XwlPysqjg1l1Wn.iXW,1bqXWhl1w1bom1dsk
    o1,Iwd3W3w3a1eXWwqXX162Z1Nueb13Y16c18aXWImXWDaXW13o1H.ZZbCwGqhXW21Wdjb1andXW2Kyljodd1armhZmhn.
    TcXW9gDiZJ.VaZ1g3WEWcXWb2iJebgXWfiW1X8qBwbXW8sLcZcdbAqOyeeZJs4i7sMcb3c5yXW1Rq2dcd1y1tr.ifm,11w
    pXWkfeKye5e3.Mqsxuhcck14aDocfDidXWbecJeBkb7kbdXW15oo1n2i1Zi1j1mh1o,v1nup1Ymof1n1W1Z1ctd1Y1j1ut
    TocZLWXW8sc4cXW6ccXWf6cXW8.buxZoEWcdhbwxist9sef4scZFsd1Z.y1r4o3pmn1adtPkjultknuW1Xivo.1dslokri
    1w1j1d1YXWFccZ4uZeZ4sb2yibZf3o175lZMWZ22wjXW28sZ18ggIc1Gw1H.2Umjmto2KeXWkbXWfXWTmdZMiPqLeMkLyg
    b1IiZAWPodXWehmCY6.7iQy23u1cflgld.mxZqtm10gvbign1W2WIefid9WOWZ3d3iXWPig9uEWbDcdcUqbXW7g18kfhx1
    gZvq,yt1g,RgZZLci8i2c8e6idj9obEegqbbZlW1Xi8.4ocXWb2g1oDqzZ1YpiXWhdPkZkikei1Zmbnj1q1hXWz1w1lf2W
    1p1s1tCo2c5WeZ2.dc1m1y1mZ2.18Dp40yZk1AkTsXW18qfIa33WZkf2UqdXWGg24oXXhSwXW8sDkLqdgbPk4Y18o8WBwX
    WUkidcZ9sdQYB.3o15m8y1SqXWblkgVkfbghKw4.Z3yOekbgZjPkOYZknbkXWCqcUi1GigjXWgnbeXWd1FqAg8mZ6c8qmF
    eiXWnelcW1XZqb8Y4q1c1Y1uZFacpitj.hhdbulQipwf,iwt.s1XZb2W2XoDq3s4ibZ1Y2q2sy176hLw35WZ8uTu18uL5m
    KEX1BccXW1Iif7aLi22kXWdBu29aZSoMYZc1EyMg29eZ13W1Tm1S.kletseVccfiKebZ8uO.cddByDgOWCwZ15q1Akxojm
    1MkXW3u15keCiXXJcknjebsgxcQyfnvoy1f1c1hynwbzsoZtiDi.2cXW1e1k1wZZywW1X2cZbXW149vj28aIW4CYSYXW22
    i2KwcfeSe1Bos1FYMe8WZ1Bg12yFc1Eg1TkViZb1k1KqXW1GqXXd1IaZi1AqdXW17w6adg8Y1.17q7m8gGsgZffcQcfqfe
    ZhXWorbm9w7.2o2.XX14Ab75s8s2MYXWbe2KoSg8g2I.XWMY1JYc8uQgbeb1KmXW26iXX1JaXWcZ8gPqXW1GwZZ2SuZccc
    1DkIqEy1GqkZP.ceZeZ9Y5g1g3.3aeZZ145tCKo60q5Sy2NkFg1Hy1BagbZ2Uu11gZbgQWZEe1gW1X9sNJvd69c4NeTgZc
    1MWF.10y2Y48cIoXW5o9i4sBqcXWBy1FacJaUKZ4Hm3GqA2i45w2TsbXW2UoZCk1EuLVXA2c2Lg4Eg3Vk13.K4bHVk11WQ
    eMRfXWN3sDs3h5W"

/-- What Windows has beyond Big5, or otherwise. -/
def windowsBig5 : Grid := .ofPacked 0xA1 0x40 191
  "WaG2mWd3F2sW3o3UQbW,3VBWWj3ECpgWh8f3E5eWWNyWWhXWWAt3FJhWG0z1BTiD3o4UrO1f3PmE5iGQxQQj1c,qwpp1Wv
    t1c,qwpp1Wvn1c,qwpp1WvtZ1yXWcZ2g"

/-- What Hong Kong has beyond Big5, and in three rows instead of it. -/
def hongKong : Grid := .ofPacked 0x87 0x40 191
  "11VY44c32,5x2z8MFW8IFX3Sf8RF.8NS,8NUe90JX5Qa.2Gel7R8W6AnUJu2Cl14m8I7t9BFs9E0bNh3Au8NUm8NMh16d2
    0d8I8c7SFz7K3WVVZHQeLu7CHf7LbWWJ9sI7n8P9w96Sh1CKY7IBu8G1f70Oe71BrI7,9K8u91T,EkKi57cF2i89Rc8IEf
    3wW4a11DxXZ77Ko77Kl77Gwf77GlXW77GgFHy7N2X77Gc77GZXY77Kc77KZXWOCz3,GwGx5c4p5a5b8g7pF.F,WWEUwWWc
    EVj3m2XEyEzNaJz2r3c3d4e3zEeEf6a5rEWEX7q7ZDsDtDyccW1XcEXWWESeWWcETlNmGNqXWW2p9VS.296fWW6M3tWXBC
    xGAYN7a5M,WX7ILk89AfANl.8YQ.1.2o4oBym9e1e8em1Gs10.1ge2uc13c3oXWFuUwRi2K.17ik6a2Eq1M.27q4NWo.yo
    1Y2m3a1Ke5iAY35mVo2g1OgXWmW1XDLx4EuDaA8l8OeKAbWZVMiCDfCAk8AbWW65W61h64FaWX64KnF2o18Vr18Fw4e18S
    z98RoMUn790f81Iq9LNbWWSDq9Qg6IhWWM0n18Lu2e2GsJ1b85Ei1JAbBVrIHk7ECb5yZm3o2w4wDEtDNa8Nh8Ru8iE0t1
    k1cEEa3OW3Ir2aq1Nv1VY1m9mEMXEUcF5nF6WF5xF7W6aFBjiHWF1c1Y1ai1m2W2quiFPXFQmFPr1sG1oG1b93SW8K5,WW
    6RHyDe121k7TPt7BJk7PDr74Li5QFt6VNc13Iy9A9b906u84Kf6QB.7P0f6Qa8SOoBMtE0n7KGx6KAW13o1D,22W6M6lKV
    a601o18t1LqEKi1AQyUOdWWROx26GmCMf8SFh83BeGUh691X1G4t9DOy9B0l5El8ESa12GyFGv15Of67Tj2LpWW1A3v8EC
    w7TVZ7TZ7C6qObDLd7B7v7B7gW1X1B6u3w98s8ABj7LMo120,5UTt69Jq1KQu221tWW6VIj6SP.70Q,C7q7AHsWWC3u10C
    v1DPu18KtRj6S1xABz1GWWW3Fs7FRcCSp67FdBKu5QAm6L2dKNt7MNm6CRhRH,6TuJ3pWW9JR.2BVnECkVsWWE0ZKFs803
    X7g949i96Id8KDaUOb757h6SEWEOa1L6.9H6fROa7GV.WXJJq13Ep68d225eCOz1V5d14j1DUo7K8p68JwBJgJk7PJz8DU
    o11LlGaEd77Hl77PyUp20o1GdWW6W1GbQW1No7y78Kf7J9y716f6LNuI4m114i156tF5XXWFDcg7P3x7A8Y13WPp2BGgTE
    bGOcCmC,7RIX10DzMVoMGtWW94Gs819xNX7EAo14NX6UAz82y8ZIDX84Lk7I3z14PxDSo8ML.7NGl5UKgEt6o8g7CHz8C0
    .8BUb7BCy6R2l78GkBEv1Bp6o10YDY1OCW1MRb2TvVTmGAv79LX6QSqXWDmXW6SLr6R7iW1X1K8e63q1PHnJr11Ge8D7t7
    CBeSs10Lo17Ui1CEdOQXKJy10Gi8KUd33ZE4z8GIe7DOtG4r9Mn1Iw19Vu1AKX193o9b6VUmL3l7DKbG0pG9m46Z5Ds71C
    W3EBm9GIl5KJi6P2t6YCNxJEi1I.7eJCrKLc1Eq34iBui23cSWHV,I8a7B3w74Pl31l1R.15s7HHm8MQpWW8N8s7HKp7.7
    IPc1KW8AVfQGmLy7NFa7MHbNy3MoFem6q7S2m7R2p9W5q1Y8i7VAy7TPfQeAiPLh26Po2LDX6P5Y5L6rPUjP6uWW126lES
    e8N7i7UCx1GTx15Ck6SCW78Dl9Ob8Th83Ay8E7f8JTm7U0z8KHY7T8t15WG6h57n6Aa6VCm1N8k9I7v7EFi777XMTg2EbH
    5f8QMa93GjL5s8S5m9G9l11Uw626Y684h8FHy75x7PPhJGnEIp76Ls668rEHt89Gs7L3vJSrKJrKyCw18xEo189a15NfKL
    mIFp3.72Ek6VIfmIq73LY70OlW1X776.75EXIs792Y77MfWW2Ga79Gi78NpQBZ85Jo7NFzCQgBCs78Ia30,7E0bLqDmQq2
    8w1AWD1cBHpBHs8FZ8Fc7Tv57XA8a3R,6Ou7N0y1SNr79Sz13aBNoWYV4.OFxIFhACmWWN9q71Qi73Bv7N4.8I8v8GFe87
    Vp86Ps2Aq781ZXW121n121qSCnBNg80f5NeU4b3Ju7MPe5CX7HVvPwWWBQW7F4i6O2ZN8ZFMj7S4W7BTp113sN5tLV,7TP
    gHCp78Qv9F,2Iz76Ls1L9y7GNhTHn6P8i6K7rJQyBEs80Ag8SR,6M6gWWB2c1JQw946t2Rq94R.98Nb1GAw810c9GBx4Ib
    7Ia8ILW8LCr92Jk9Bd8N9b69p8DSk87Jp4j46.GzFu3Ov32b85Km8AAz77y2Z1DXDLas.FLr2UxIPi1iIPp1oJ0s7u6o5.
    J7tw2u.JOs6k25nHLvK2.c1kK1lK7g6g5i3eKIXEBqW1XEAzKUW1qw5eL0,L7i3Qt3Ff14N.1IGnLFWLCpLKc5gLMZLQYL
    NXLVgLTfM6c5wMAnMFc3sMHbZsMO.3s4Hq4Fn3u1rMSpN1sMVpN8o1Wd1aN9jNAyNAlNBqs2W2c8u4Y2q8u3iNT,O3mg2Y
    5uO9bOBiy6ge1a5y8DJs8DGh2mnOAiO9lXW3u1YOUz80Vu77SX3yP5fuQ4cAHzFG,PAcP9tPCWg1u1Ys699w6VMf6TX7CE
    mO0W7JHp8BHi7UPh7JAc8GPbPLg8H4m8O7hFDi7F9oTVo8D7f1o7FJW7FFZt1cXW4Fb7PBw8HCdSHYeySFt9Ce83LW7GFj
    4s2v7BUi4VY7GLv3d42y7C1o8Cu7OA,45a48,WW7GO.8FNd8FBo7BTd49nWW3u7G8w7G7x4W760W75TvB2p7FFu74A,b2W
    7b8WcW1YNcSKr8KIm7OEl7ONq7T4p4Fw2c67j67.WW71AgFTc7H4h10DZ10Ec6D0g6D1f82OoWWH4v3q7HEv2gTMl18KaB
    4hHqXWk31Z7KPs74E,D4r7HRs7HQz6BB.AVp6TGv7P0s7P6d8V3m81KX7I9WWW7I8Z1iWW1c8G5oPSf7M8nXW2i6JBe7EO
    t8E9yK4dKGi7VSdCOc84Qa84KZ1eK6r774k6T7l7S1qAEX7LDZ6NQe697b6B4k6N0t7G1c3Y831tURW64Eg1FKiMDf7MOh
    72Gg681tOX7JQoGMdA7lERxJ8i6TKzCO,A87qARRp11NY17t4s65Fw4P.7GFd7TBw1Ty6PD,6m3k6TNeNHo19z9cQSp7S0
    ,12L.MJZMPqV7r8K9s7KVpWW2m17Lh8T5k827xDGe18Cf8SQwVLd6L9l7BOw7BNd139z3HaISeCQe6S6u71LxWW7P3.1Ea
    3f7KMhWWKxVFZVVe5a7BQy8D5Z8D8Y8BNxVVaL4b89Qm8KNb104w105xHAqF5mW1X801W1k807r7LCm7L8j67OY1DKu24E
    iAQ4n10B.17UX7H5s72At8FQe7MHvFe8COm8CGr6I3q6I7j2q3iOQzO0uF1jH4l113kXW7MPsS2lS2u7MOj3.114Z115qX
    WIFfIGg8Kz7VPo7MOneWX1y1i806q803z7NJyPq7O2Z9GpD6u3Mz7NSq7VNX805aTQt7S7v8Q2i84RvCPY1e74HaJi752j
    yXWAf6VTa6VEruEv663Y78Cr113s24w7OBq3u1U4iB1A,932.7O7x7OCc2i7OAt,660y663hE7,EBi6VRo86VpWW17Dq7P
    5q1NUzSNk870z934Y8BX7R2h9Skqy21a1Rt1g7Q3oAy7Q6x1L.87Pw2C4,5T9x138p90Bg2AZ13Ob7FCd79Ms6H6p881uC
    LnRt1GTv7KQh8QLm7FAX7QGi57z7L5x7QGuAW7QMd7R6u7R4,7R2c7R3nWWBq1B7l1BBq1uAHn868m1LAr667tIM,IQc2a
    71LmWWQGy172t177aQJZW1X14Ar5T0h4W7RNkGs8DLvASv8O2We90OX14EW7SQo4y3r7S8vEo2P,3Cq2aOXNsIQrMJx7HS
    a1G5.1Q5vLRc7Q4,H3yL6W1u1AIr1AJm7C3c86FtQDwESZ88Uu7Q2d11FZ52t8HHm1L4f1GPwMAW3k131fORvCVi6DTp8E
    ,8Fg16Il2Db4o82Mg7D7fAJfTTsWW7TBs7T7zU0x8RAa7T8v1Jr11Lh7FUmi6CJd1k1cyc1c.6U8w6U7zHTb8G1mWW7U3z
    7U2oDAd8NAp16MeZ1o1u1ELn8R6m8Q2f74EWTIwAQs6V3v1d1aZ16Sn8H2o1B5f70Id11Jaik2Nf2Sa6OFY7VBl96EiA.7
    VHX1m3W2t4o6UCy8G6Z9CUy5Ig80Fhc802e801Z17Ej17Gk1q7LDe8QSv15GY777g8OEh7RRs6AIx1X80V.91Fp6V1.5UD
    h6JBy6J4pdy815w809f80UeTu1qCr4cBw826Zi81Ra81IjQOjW1XQJw61Pm203o8y24Eh24Fo82Fr81OYVu822fiqg18Mz
    18Nki6IBi6IAd1HMZNt1Jo91iBNf9A6y7MIpk19Nb148.7CN.778tWW2c149r1h14Bu2Ox7RDe7S9p9NdDEemI8xIBcMNn
    J5n7URm4k7C4f7C8a3BX3Gq7BBd8C3w1PEX6FLt87UW2Bo7TCx8s7R5a7RLn9i4s7QQa12Bd79AbPIvS8m1Da4Nd79Qe7t
    797r6J7a6JKv6K1uEDu7RDb7CR.TQsU3l7GDj7FTqJ.7GLn7G9eLy137s8K2n7FPy6VMh7PCsR2lLjH.FY67Rd6OQeWW6P
    5Z72KWJTaPJfBIuB6ZOLm8LLz7OVs1HBWL7l83IxOCj2EcTcD8i70Bk6OHbJRp7REo4Qc5j8gLHc8BLjTe881e881,6SKy
    23l16i5T4l7RKy7RNl12Af13eCHb861y7QNr6QQqEj6Q3f4W83Cm7TUp6JKe12Y753b74NaGs77T,DFg6PPm25Ve263z5R
    Pt5RJc6PNfW1X13i4YMt9,7TGu5Of7NKnEw3.1iBh1q7eAgWZENs73IW4Ag8k78Kx6LHcJ0i7MEZ1u6Q1y70Gd6VSk1ZZ5
    RHl7UIc21Oz6QBh4u6QTW6QPbWW66lLHc790YRMvUOwSCn6JHd6I4wWW77J,QRu8h4cBzK0r7VI.52,7MBxF4vU8u77Bs7
    LHh6MPa6N7n6RFq6QApTKY29m1OzTOp5XzGKZH8yS.8NQy1PKv7i5,6UEf7fSDmS1Z5aBx7VJgVLdPbL3g85QXR1Y3J.D2
    b826c820b8OLk23Sf5O3dFLf6F7m6GVzJPd159k7QVe7R3z1E1xI7.8YSY1j6TK.1rGNc7E2Z1Nz6URgXW7H0d7GQW7GSd
    7G2a7G2t155m84Hy1M8xBBo1AJk8L9vc6T1qNv6UKX6UDY6TVlLDY7NUq7MPxJUb73Uc13h735XGId7JFm1W1LCsGHh86R
    d6F7.oITi728bZId762k6wCSy157qW1X8MDv7GVgDFt7OKZ7OFq4I.1I9s1L7b75KZ90Ig8VQhOhAY7J1cE7v75Cd74Vy7
    46jJY20mMNz7Q9s12WBDwBDz7EPz7ETeD0l1TMk8MNZ75RuDj7RDd3BY89VgQP.QPdV9dV6WJj7DJl6S1iCDpD0s7UTX7U
    Qu8x8Km7E3t839k83BpDDnD9y894Y1D8h6ROn767W1W76Cd7P5g8FQZ7VMq7z7U2d7U0q1Qf6VIzSJrLVq7F9u7ENf9nM5
    rNFsP5t7VNc6Bc7D5f2W7m3w6N0y6Q0Z1OmRgN7hNAeDy7A6q1Ij6KFrAz7SFoH,7S4b7MPi4R.7QNhJCbMk7DEaWW56x8
    0VXO7i793o7IV,9SyASdADy5H.3Gl78UWAf78OhMW3my7AFu6r7QQv7SIu12Bp68NZ757.49p9UuJdBCs8GDt5h862.10K
    g16Ez7F8zGRfQTq9XFKuFLXNPn8KKu8K9pO3cR2X86Nk2y86QzQVyH.8NLe9LAxSLW8B6g10IZ1x879dW1X1Dc868a85K,
    85CkDb6RFpTCnU1Y7RQa1P7,73Oh80Kc3r7D6,6TBs6TIfXW6w77Hw7Hj7UId879c7ABn6eQTv85Vuy84V,84S.BHo77Al
    717s7EMd7Wh4s2Gb2Oq7UUoG5z8AThWW11Oo5FZ7Nn7ACy72CX4jS8j7ANo7ARf18GeC4f69LuU4Y13FdTIaJ4v7GTlFTg
    FVtJs75Is53q68ItG8p769wPRs1d808,6K4.64MtFCj80Pw7GCnSGhT6g1YT5v8CQc1Gq1j7GTp76IwP4p6DIb1b3c8Vv9
    Is2u3fNu7HHeGhCUw7URZ7GEu8E1n8KGu1H5,6GKX6C7oQOa7F0t864.1rD9j74Oh2Bj66Gi19By15s7H3l7HGc722n9QZ
    A1.O4l752e7T5x881iDRk75Oz75Oa7GIX7MAm25j8JUlU4yUJhUCg4e3q7J7c77FZ78OW7JUXe7JUw7IVz7KLg7JPl7M0u
    8BPhCGl7BCa6UHh6UNk6URx6UVg693n9PHw2U2x6QMb7LVi8D2XW1XN6wSIpSKc3o2m8W1n76Jk76I,7N3aZA7a1v3xQd9
    5Kv12VkUQz2j7Dx194u2Z852w8QFtPD.6O5q7EBX5Li6h6JOa5TDn8Cz4s7OFe8I4bF2qETdB8b69r1BLk7y6UMc6UDp1s
    165jKMg1Me6PMk7D8jJD.Ez6KLW5TVZ1IJf897s6S7fWWTKr66t14Bi14q7R4m94Up959s7RDh7RVk1.83Lj2Kk5M..1XZ
    7RP.8CE,QOd853yKe35n82Gd7PJ.6DPj7S5o8ZZ97Pp85Ia8u58r75Tv5qQM,1C4i7SNW8K6pF2r937kSBfWW727l7R2a1
    9yFlJNZ78GfRQpO5o112xLBy772c6L8X2rSm5QU.6OMh8N0g10Hd6P9d7UBu80Uf81Ea81Vb16Ih939Y10Ep10Fy7P8n7O
    Mq95Kh19Is14GhTFWAIm1c7GRq8UGp1DP.172v173uBc7OGqP9x7N3pNPcVIdVJa7VCc96MZ96Ro7VOv16V,2j13UkTGt6
    T9Y6TEX7OPkW1XQDX6EAf6NDuB9q7AFdLKn1BDu1DJZK2q733aUs746fTKog2o4j2h9Z5Y815.818z835kFl81Tx187d7Q
    5k6HEv18Mn185w82AoClk3Sf7TOrCEn7KLiSy25x7IOj10Cp8K7aEY9f7KTXS.7K1cR2pK8y7J8b6TRsAg7MHd80Ba867v
    1B7qHx8s5NNm650jCR.Tk126pDQf1E2g72Fq7EIX1m6c6t6FGwD7cBNo89AlCDoG6oZWW4iE0r7MQa7KVrJoMp12Ow12J,
    CLyU8h86Fy77SZ7T5iEApWWRUb1P9g8KJx33zCdBK,80Sw86LvA5W8V8a7R4Zd62H.4Rp65At7K4.1CAxNEmBDfBPu7L2x
    7I2eKOs7KPp7HReBlBEt2z107W7RHhFGdQFpQSu8BBW1PCf7CRz85Tc7FTt4HuoQIh85Mo5kPBtP8y13B,87yQSa7APx7A
    C.7C7Z7CDa6RFbF9zFNq5OQW5OSx7RPyBn7R9X7S6aR1b86AX90Ky8CHlW1X7BToU4f6R5t6NNk2TaCy6RRjICc6F3k6CV
    v6CCgPO.OVz79If17De1EFl99Rk10Hd7NVx6VHW3v1E0a8CUdHR,837q83At1DRWRUj8O0o1P1,62Ez1BAl76Um701z8Gv
    BMs9Ot1x7B5Y6H2lN7r8VHy8A0p8HDi95VpK6w88Fo86Un1RnNTp81HmSX782tGsOPx738k67AfV9hVf8Ro3Qj4Pm8LeSA
    s14JX130e7UDuG5v89Qz4rGFb7ENw6HLf796g3HWD8zEJd8Gy6TGfA.6L3aGKy13HW12Hh19Qg19Ax1TvCAi7H8h769eR0
    s7K7pVL,1Z8K5o2uC,1Lw80Cl80Vc7MSv69Vy69Kx7K9e1Te1C7n6V5bFq6UJa6ULb1Y6V9gKFm85C,HCc6UKy7G7hTCmH
    0cMFj7E0u7K3l4d7K6o7C6n7AC.S3yPDtPZ78Qx78Jw13Oo8T3Z8ENo886j7K0wSOWT9X7CRZ7C4sNLb6H5z8y79Bk834f
    NJsA5Kk2MTj75UrI7r1KgFJvGMq7LGaP7z6D3t38cW1XNQZ7J7i3VrOEv6L9j6OLm1Bv733f7FRq21Ho8PBd8GLo8PUtB2
    W4Kg86Ok4Sm925nO2W6Hr4e83Ug83RvXW7HRy7HRhmQ9,8U7W7LAvF7l7BFy7AHZ71i11IvS4cS3tMTaAQhEHwiXWQJx.g
    kQTqQSh4iQVW2ui1uR1ZR4w1gR1vR8yR7jR9yR9nR9.7CEc7ETfDMhPLyOHlC4vRIkRGrJIoJHv56r10RyRIziDVWDMYyF
    DpFIk3L,3MeRNfRPa.s1i5Uc78Ey7E0b8JX8JWS2,kS8ooB2cARhARk175hSIsSD,SGs3Ry10BhSGuwSGv65cMKas1W9mq
    SRt1sT0a2aT1XT2wT2fT5q9AkFDd6E1W67GXif2yRak6HhNGnU8qi2Ev2Fie2e118nCUoCEw81m3cUFvUIW6Ub6Ugg5Rb5
    RgUHd4Cn131yeXWW1XUKlA2mKKcoUL,UM.UMjUNoKRjKTc2e7YUShV1m3X5g.2mV4,VAm9HcMD,D7u9HX9NWHOZHQiVOfV
    Rs2e1m1o2o1s101l103gXW7Y106p10Fu2Y2Y3y7Lk7Br10Oh1a119m5a2i2e4s7NTk7NJz1W5w2YPy8e1.2s12Of8CmQMg
    12Tj3GaVKwS6bNwRHyS7vSBu137p139m1gcqiCisqc6m4Pa18Hl183e3Cx14Fh14Gs3Y1e4kd1a2gooXWq4k4a2q156nw1
    AM.5An10Hj10Hw1Y1a15Df15Es2iBg7i15Vt164y4W164zERuENv16Hw16Gt16Ny1Y10Mz5NXB0gRTa16QX16To10Ax10C
    su13Mh13Mo1uu1ui16Vb175i172n17AWDeG8vGEk1o5w1ge17Ol17Re1IBZ7I5e5V7pG,W1X1Cg14Az13Ke2se3w4Gj2KX
    7Ci3aiwq4Ur50k1WmI3XI7w5GLY12eEq6D8jLQqTHl6LIu6M9lU8a1EGn771w4Y6a84g6VMdD1w6CLWuFc6RLhAHTa3M7X
    6RIx6RLy4Y1o1c1m6LPh6LQk6R1d6R3u2o1Y8c4e1k6I7dPDsA8r636WsCqBq6dBr6P5d6PPw6ORZ6P5ax2m6KLn6KLyy.
    7D4,7D7o1g5ww6UTlOKq673k9c3,63Rh64VkAcQsg74K,H4e6JNcJyCe1oUi4k3w11w6U0h6U1c4Y6MNx4Kd6RVY6R5vPI
    Z7LRgLu2e1JYKmD.6J5b6J6s2wKc6GJX6GKe6DKn6DM.69Lj69Om69Fn17k68PWWW3w3WNJaNEXsAi2bAyJc5o6m3e1BqC
    W7A2x39m7m89Rs12Hb8wWW9SmWW9QXFwWWPTX6L9Z75qW1X10s78PWTRYB7hGTZAoRKi1AMf7BSrUo7R6a14Oa13Qv2W1D
    b1Fq6c3BW127t6PVn6Q4W6M7b72Gq7HEr80Ka3GiDc7MKz7NEw86Dp86PgVBq9Ua9H6l7L6a6B6h7VVYWW11JvEqHs7C0v
    7CBmV4n6PHd7QKYEa140x5S9,70Lc7UPx2BYD3c7GIoOYAC,5Ly7QEt7V8s2oBEgWW8RD,8GCwGFeGDf874j874sg16a78
    n7H.83VlDMt7VDaWWIJm88Ol90SwN9rDu7yV7j72U,CRYWW7NRaDHY7LRv78Lw91n723n7CAY4o83E,879wWW3Nd15Mn67
    3b6VGwD9cI9pIIe8CLb8D0WFkVPr69Bj71Nw7R4v3MzAFAkWWAH1f7N6oGTu8C9b7TCs6PDzKCl7VI.8RAh19MW7F2cDi2
    5x24yWW6q7MOh8AN.23A,1FHiWW1e7NFfWW7NRi77Tf780m8PSz8N0s1I4n639z7OBaIm872,7BUyWWR8g8ICx8ITg7RMp
    9Is7IKq8AFnW1XGPr7N7a15B.Oc8QNp8R2wi7G0f67Fq18Ha7FLt7FRkKHj7EPlK6k7FRa1ILn63DZC.6G3a1DKy1MCb6K
    Fp7DNcP0r7F7v1EtWX78kGNm8QVm20p87MZ7N8q8w8GObAVl7AIu7E6p7UO.14Rq1MId6H1n8Rq7R7mBSuWW92FZ8HVoCF
    w7QzyGa15uTUv733lSh838u885f8PIs8SDv8CHi8NNj8D6i7D4nLOpNIm7L1cKvB6z1ASnF4c171q8HCd8NAu5Qx8KMz10
    G.7OIk8LPz7LTy7HSr21mB0d7RDe5If81NXLIi8CLs6g3s1GOx1GQ.3s2k6uEw2q5u96SX979.14c8URXDEw8INY88KzD4
    y7RMe92Sj92Vi930n930qL.8.8OTv8P1aWW1RwImWW2g2w99Kh99Mm139f6TFrEKZE0f8V5wGc3poNsQW7o2a5q6iEk14w
    4a8FFv8G5q2u997,14Ae86Kw8OFZ8OLy9AMz118a8ARq9C2,6VGY5UDzSVxW1XSVq6AFk6AFl6TDs82OrSNk7Ip2AhDSlD
    0j9B4o98,90Md1BKk64Ni1K3W5Ko2y8Lt9O,8KCf8S6sSPzCN.1Ia85Bv87Um1Tm85Pp6RQ.605,PAZ7HHu71k7KCXWW6Q
    1o8i6PKt7Gd831y843X7VFm8AKt9FTc98Ht4QifKIu7FPW82Md7HSu6QTXSLf70S.1AZKNa6QQdE4m84jBDxJ0sIVlMuDO
    wVHdMHkRWMDbLGy1Ek1LtLDdHNoHH,12x6T8m7CC,G3m1f8GY8DVa96BhVGmFKf3jIdDu6RDW5i6MSj7P7o11DbEUwESX5
    NVlGLZJNv6T9m6MTnQDY11DpS3qDDlFOYMNr4d4i79h7ATs67DZ694a7EHpEBt7CCo6U0X1AkDatGLeBSm7D5y7PDp5Gi3
    K.7zKa3HZ16k66Ai75ThN1o7A0c7LNjJNu7IOo891n787q1B3uTOvTTY7Ad1Uk7GKj606q5VTZ6LFg1KQy2BVx4y6E9d6L
    3w7ALf847gO3m1O0z77FZW1X1DMeRJz748a7IAx7VEy1APw26PXUbWW1JPq1IRjWW185u17CZ6FUf6EuFCc17Jj1jC8xIP
    k8QiCKtEBt1JYCQaEDn87Ne7MNz7PDg74KZMUb1MW81Eu18HvWW77Il7L1e6OFZ8LJo98Qd17Eg6GHa1H3c99Dh81K.12V
    i54Y8DOb6SLsQFw5F,O9d79VbCVm70TcCt820b1AT.UJvA5n3Vr7NW6VAi674zDLX6PSk6B3v83Bg8J8lBUnARy12HWV1l
    CEY8MUY82Q,18QfWWAEjKH.77Sa9HoWW7MPh6U4w6TGb7ORw1AAe95Tb8F7s8TGZWW1JTWGIjFEe11Lt6VO.6THp48Y8NV
    yOPt73W7LBl637u1FVsH4XUNZWW6TNd76Ha70OZSNi63C.5VLX73hAIxFUeV3ZFDcCJtCyRSsFJXFLuFAvWW3v4gFPWG1p
    FGyWWHc6MIe6KUf14Ul35Y5Sj179u17Aj16.A5rACu29k3HZ4Ma25uSRk2Ue74,TFd11KuOwOj128z70gW1X3VwALb143Y
    Fo18Cl150kMCZCDrIAY6H2m5UPd13MlWWVEk2Io2IhWWt7UKk8LHn84Qg815pABpTNyE1f9Fh6GNm68Ax4Ia7FRaFIfWW6
    1w794dICm16Nd6VAs64Hj28gWWLVn6NkWW94j2Lt5Tk7IlEMe6ASa6PBp2Me3.14XTEo1BOfWWtWWQMWJ2s72q20z1Mp8k
    10k1U.2fMGr4PsWW7HrE1.4AXWWKLn982s8BTd8DwWW8N,7u7Sy81tLN,8GFu7QLh4y9Qb77Qg783pMj5UzENyA6X8A5e7
    LJfP5nDGo91d8MFW8L5,9VUy9LJfD2r9WBRwC2tVWBVs6UTY728vJ7hKEk11UpWW79Og1ASsWW7HOl6D9yWW721zAMsI7Y
    16y4Tj42a9PrWX2GcCStHVi29W1ITrUDwJAtO4sEFq741W800XALh199cUHpWW51z51YJm6xWWJTxJOk73n7G4u789Z29.
    P3XW1XJOi8N6u7TUn7V6WWW8UMX766y6I4XITf11Gk5SGe77DjWWRPqWW2Cg7H5o7H4X1Ax33qd1Hj44n1dAAc3NrDGzCL
    k7Q2g7Q2t5Mt61e4T,96i7F4e7P7p7SN.7JIn2i30j2Sg1By16gMrA1n13d7Uc17AhPNyHVgWW1VxWWDVXD0o6S5Y75IrR
    GvPPu8DbFoICtWWHQkWWFFs85RwWW8L4fAMt3AcB0n80BWH1YBOWGIhTUx34j230iLIl1Da89Uv82EwK6c19PnQOp1JLoC
    Jn84QvARy842y71VvAr71SiW6Vx8V0tXeuXe1GxXeMByq4k1u1Ec1g1iK.4W3a4y2Lg17k15uNAnNKwWWDa1a2TeWW85.W
    WD2eWW27Gx11.N3mXW6ZXWWX9pXXFi374Wc3C0X4GgX2n.XYW1XX2nMEjXa1f1iX.1w1tXuEPo2,XW81k77Fy6P7b6P3Y6
    N8n6NZW1X1DIW172n172q7B5kW1d5R2hcDxh36DZ8Htu7NsXW11vgcXXccXWomXWoceccokcogcXWcmXWmiWYM6X3dul2a
    Ib5t5eKW2XW93b1R1mD3o4UrO1f3PmE5iGQxQQj1c,qwpp1Wvt1c,qwpp1Wvn1c,qwpp1WvtZ1yXWcZ3D7.42Ls5P6v5PG
    gSUk6T7p119lOJsH3rDMv89Fq10Ac7RAX639m6BEx6STs728v8Fn26h7J5g107m23Gr1KHe1CAz71Lr7AKc7AEh8EIa6Lu
    128fABaIPzWWGPh6HTr6HTw3p6A6v6AKgWW6PHzE8lE9g13L.1GIp16De72O.12Hx6PIl7H5g7H4r6T9iAFyF1lH4uFQbM
    AiCBX6V0ZLVu5V3kREk7LElkW1X15Nw15MtkcAFhAFm7SDe7SFd3WMYLhOUYD8,76VW7BRb6NX1u1k7q5z3y2iwKLY4IyP
    6bPIy7IGkWWFSu8QPhCPY78AmR2vR9o7MBpWW6SBW6FHl6L5u6NGt5Rs9OtGQX2Tz7F1w6IGtMJt7Cum8PJm8PIxWW711o
    7y6F2xI5d8RGo8RFtueFVq7HSu8C1pQ4eFTtgC8gF0X4Ri22hCIz78Eg6RQ,7M0u94n7CQx6S8a6S6fE6kDKz8Iw3GgCEz
    8BEk1ET,6S1lCz1i6Fz77Mm43X78Ip77Pq1U7W1HIf78LZ45r3KcFUoF9Z2eWW71I.JMe7TEn7VEe7EOb6L0a6T7x89k75
    Ry75Ujq86XcHAcH0X109k11Op1Gc1Zb8Q7q9AKd7E2w6TGp7L6W7AJl21yCKpG9Z8QSy8A9n6U3Y6U1d6U5aNHW7LJx7PT
    W7PPp4.HKpHOWf6SMY6SKZ1Gg2Bv950y1FDn6NAh1F3bHN.7OmOUdRPkW1X6JUi6U1r2DZ70KW68OxLJv6POi1FJeAq1AK
    z6V0d6V2c4p1AVg803h6LBmLd6UDv8A4w89Pr4nHNx89CeWW89AZHO.CTWCPb8AC.154x7JS,7DOw7GT,7FOk6S3h5Rd4A
    k51c50v8F9c8T0r45q6SQm6J2,2Ou6SDgVPo1A2l6KRb5j78x7Fi6VKW6VJZBRuBRr709a178e87D,9Mv9Qo6gk9w706.3
    .70Ilo2.70L.70UrHyIIi15C,88DgKBnIs6FEv155Z1OwH6w65wWW61X7J4cRUp6SIx2E,WW2Fa71Sq6SMnEu8IO.8IOpc
    J5tJ5w4KcLTyQGz6HBg3RDeAURj6TY758w6Q0X84K.12BnWWAa72GzS5s7BBa87FvPS.7RFk8L8,VZG5l8AFaPEj18O.15
    9X6A9b5OCo23Ou8KVn35g6OVc7FHf26g3OzGLm782g6N4dTJZH5.WW1i7KDWyOCg82Q,HSd4SW3CgHCYHEbABMg24Tf86L
    Z7Ox6Q6c6IC,2Tx7I0yW1XBLn738v8KSs6SY8ROxK9z7O4.B,749zJq1ScPd6EOy6F5d6QAu6Q9t75Jo75AZ7J7e87SnL2
    a4X6NPk26.WW6K7b6VAw6B2b6K7oB9a7P3vgNPk1D1hKTgKUdLFk4Sq7DHch7I9z1nz75IW75Cp7HOu7V0pD9sIFp7BLa6
    P4pe30f7A2a76Un75UWXW75Rf75MYXW75Lr6K2s6K0z7LOW7LNdWW6RSs9Vg19Se1A2vGKu7DKz6OJc67LdPAb7E9s38i8
    7FjNDW76SoWW785th7D6u17IY8KHjHEzHJq32.HUwL3t75UiSRs82Kd761c758z2s8GDg8GMvBX76Gs76CvZLSz1JZ7U3u
    7TBvM2wRi8GEq93KzJ3s6cMVl742o606jPDdCMq766YAI,6REh76B.766jNArLR.1Hm8JDg9AO,NHY6F0k6K4h55m4W6U5
    q6SHn762kRIjAQe7H1nEEa7JJq77Np79Hu79IX5u6S5gI6kH6Y7VFlASwAQx78Ke7SFl7SFo1Um3MovW1X63l82Uf30k78
    4m5OQ,6B7k6Mn6IGbBLn82E.7w4s805h3rIY8o7D7u4FrMUy7KJ,7L4a8EQxWXP6m83FeWW16Fb74Tv75JW72Rj5Nx9Rz7
    ARs705dSEtS9Y779e77Jj6IPyLQk7TEn179uIAv1oP0zP2k8GVw9A3hP6g78Qi78NZ78B.CgHv4p3vOu7NMX7NNmXW1lG9
    y7OPb3e2q2j4uqXWqNTt1HvPSw1z78Ea78Kv1sBBxBCcWWAAz7JCq791jH1e6NMW78Ph79I.2Syh7C6n8D2.8DItLaH3gH
    2xCGfTJcH1,GHy71Cg7HTl1c7BJg7GBl4PocQ0b7OVW743l3JY1KiWWAq7AFo100o8VJz8VHm8ADvkAa2h6C9Y1EVg7R6h
    8Y76PqLFtPJy7I0ZNLz89Fc2r6.7B0f1.5Hb7GIe7AUx68Os73EvWW7KTk6Q4x8D5c8D6t6d9c7Ke7KxUJvUKgFNyKSh55
    kLI,80JqW1X4Ix4Hs10Hk8O4p8OBy1PMh6HTj6ICY6I7rWW1Y8CRu1Q8z6V7f8PDi7TIlF3nd1ym7D1g887z871W7BOhJZ
    Ka1k4.2s2ib2Ym7MOW7MMh5MW14Vl8OHqd7P6xg1c1i7SDe7LJx763uEYPMZ6JFzo1s99Z7MNa7DCn6TLg6TFx88Rig1PA
    l6FCxWW6DOcR9w7GKn7Ui1owETcENl7EBc7EGp5y8d7ULu7J5f3Jf81AmLAnT6l6M9j7NsFVz87.7FDm7FBr80Pw80Vx6y
    5N,81Fw8P7zTH.8BKm8BJp"

/-- Places that Hong Kong gives to a letter with a mark, which are two characters. -/
def hongKongPairs : List ((Nat × Nat) × List Nat) :=
  [((0x88, 0x62), [0xCA, 0x304]), ((0x88, 0x64), [0xCA, 0x30C]), ((0x88, 0xA3), [0xEA, 0x304]),
    ((0x88, 0xA5), [0xEA, 0x30C])]

/-- Where the runs of GB 18030's characters of four bytes begin: numbers by their distances,
and the first characters by theirs. -/
def gb18030Runs : List Nat := Packed.numbers
  "W4W1a1bYadfbc,1WegcfXZacZaXZXYabnodelmuvZaabz.3Y3ZXYXYXYXYXYXYXYyz2t2ulm3b3cXajk5t6eXeduXe1t1u
    k2kXY6T.6T,YcXZYadffgXZXYbc3m3n2s2tXYZaijgh1.2gakswYc3k3lcdXYZaabYcYZXYXcYZbfbcghZabcjlYcce1b1
    cZahivw2o2pAjAtg1o3a5ma1ejyZcgimoegegZaYaos,1XYZ1s1tXY21.21,YZZaYaghlmYZZaabYaZakl9b9naeXqbdYh
    qrY2rdhY2ubec1h7s8Wde3n3o7g7iilYZ1Y1ZfgYaYZ3n3o1h1i9g9h3l3mhiNzN.2r2s3W3Ykl4p4q6w6x8,9W3n3oRrR
    s8e8fEtEu3q3rab1h1i7u7vBrBsqr6X6Ybc2o2pmnDvDw1o1pYZacXZqrZasuL,MW1d1i3l3s4q4r2nKFtE2wHUcX2yX,j
    1kXabcdeacacefdemokl46d46e2i2jxy2n2ofgw.XYXZZacfXZYb10c10eXpakXbXlXb4r7p4X4d"

end Charset
end OpenBroker
